import ArmMultisig.AdapterRuns
import ArmMultisig.Accounting
import ArmMultisig.Agreement
import ArmMultisig.Binding
import ArmMultisig.Completeness
import ArmMultisig.Conservation
import ArmMultisig.Custody
import ArmMultisig.Deposit
import ArmMultisig.HostBuilders
import ArmMultisig.JournalReader
import ArmMultisig.LogicJournal
import ArmMultisig.Minting
import ArmMultisig.Panics
import ArmMultisig.Preimages
import ArmMultisig.QuorumOverlap
import ArmMultisig.Settlement
import ArmMultisig.Strictness
import ArmMultisig.Tampering
import ArmMultisig.TokenActivity
import ArmMultisig.Transactions
import ArmMultisig.UnspentNotes
import ArmMultisig.VaultNote
