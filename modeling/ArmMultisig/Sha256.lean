/-
**SHA-256, executable in the kernel.**

The hash function as its standard defines it: a message is padded to blocks of 64 bytes, each block
is expanded to 64 words, and 64 rounds fold the words into eight words of state.  Words are natural
numbers below `2 ^ 32`, and the expansion keeps the last 16 of them in one number, a window.  The
definitions compute each number before they use it (`force`), so that the kernel can run them on
messages of several blocks.

Main definitions:

* `force` — a function applied to a number that is evaluated first;
* `Sha256.pad`, `Sha256.advance`, `Sha256.rounds`, `Sha256.compress` — the parts of the algorithm;
* `Sha256.hash` — the hash of a byte string.
-/

import ArmMultisig.ByteString

set_option relaxedAutoImplicit false
set_option autoImplicit false

/-- Apply `f` to `n`, which the match evaluates first. -/
def force {α : Type} (n : ℕ) (f : ℕ → α) : α :=
  match n with
  | 0 => f 0
  | k + 1 => f (k + 1)

@[simp] theorem force_eq {α : Type} (n : ℕ) (f : ℕ → α) : force n f = f n := by
  cases n <;> rfl

namespace Sha256

/-- The constants of the rounds. -/
def roundConstants : List ℕ :=
  [0x428a2f98, 0x71374491, 0xb5c0fbcf, 0xe9b5dba5, 0x3956c25b, 0x59f111f1, 0x923f82a4, 0xab1c5ed5,
    0xd807aa98, 0x12835b01, 0x243185be, 0x550c7dc3, 0x72be5d74, 0x80deb1fe, 0x9bdc06a7, 0xc19bf174,
    0xe49b69c1, 0xefbe4786, 0x0fc19dc6, 0x240ca1cc, 0x2de92c6f, 0x4a7484aa, 0x5cb0a9dc, 0x76f988da,
    0x983e5152, 0xa831c66d, 0xb00327c8, 0xbf597fc7, 0xc6e00bf3, 0xd5a79147, 0x06ca6351, 0x14292967,
    0x27b70a85, 0x2e1b2138, 0x4d2c6dfc, 0x53380d13, 0x650a7354, 0x766a0abb, 0x81c2c92e, 0x92722c85,
    0xa2bfe8a1, 0xa81a664b, 0xc24b8b70, 0xc76c51a3, 0xd192e819, 0xd6990624, 0xf40e3585, 0x106aa070,
    0x19a4c116, 0x1e376c08, 0x2748774c, 0x34b0bcb5, 0x391c0cb3, 0x4ed8aa4a, 0x5b9cca4f, 0x682e6ff3,
    0x748f82ee, 0x78a5636f, 0x84c87814, 0x8cc70208, 0x90befffa, 0xa4506ceb, 0xbef9a3f7, 0xc67178f2]

/-- The initial state. -/
def initialState : List ℕ :=
  [0x6a09e667, 0xbb67ae85, 0x3c6ef372, 0xa54ff53a, 0x510e527f, 0x9b05688c, 0x1f83d9ab, 0x5be0cd19]

/-! ### Words -/

/-- A word rotated to the right. -/
def rotr (x r : ℕ) : ℕ := (x >>> r ||| x <<< (32 - r)) % 2 ^ 32

def bigSigma0 (x : ℕ) : ℕ := rotr x 2 ^^^ rotr x 13 ^^^ rotr x 22

def bigSigma1 (x : ℕ) : ℕ := rotr x 6 ^^^ rotr x 11 ^^^ rotr x 25

def smallSigma0 (x : ℕ) : ℕ := rotr x 7 ^^^ rotr x 18 ^^^ (x >>> 3)

def smallSigma1 (x : ℕ) : ℕ := rotr x 17 ^^^ rotr x 19 ^^^ (x >>> 10)

def choice (e f g : ℕ) : ℕ := (e &&& f) ^^^ ((2 ^ 32 - 1 - e) &&& g)

def majority (a b c : ℕ) : ℕ := (a &&& b) ^^^ (a &&& c) ^^^ (b &&& c)

/-! ### Padding -/

/-- The message, the byte `0x80`, zeros, and the length in bits on eight bytes. -/
def pad (msg : Bytes) : Bytes :=
  msg ++ 0x80 :: List.replicate ((119 - msg.length % 64) % 64) 0 ++ beBytes 8 (8 * msg.length)

/-! ### The compression function -/

/-- The word that was put into the window `i` words ago; the window is a number of 512 bits, the
last 16 words of the message schedule. -/
def wordAgo (window i : ℕ) : ℕ := window >>> (32 * i) % 2 ^ 32

/-- Put the next word of the message schedule into the window, and drop the oldest. -/
def advance (window : ℕ) : ℕ :=
  (window <<< 32 + (wordAgo window 15 + smallSigma0 (wordAgo window 14) + wordAgo window 6 +
    smallSigma1 (wordAgo window 1)) % 2 ^ 32) % 2 ^ 512

/-- The rounds, from a list of constants, a window and a state; a round uses the oldest word. -/
def rounds : List ℕ → ℕ → ℕ → ℕ → ℕ → ℕ → ℕ → ℕ → ℕ → ℕ → List ℕ
  | k :: ks, window, a, b, c, d, e, f, g, h =>
      force ((h + bigSigma1 e + choice e f g + k + wordAgo window 15) % 2 ^ 32) fun t₁ =>
      force ((t₁ + bigSigma0 a + majority a b c) % 2 ^ 32) fun a' =>
      force ((d + t₁) % 2 ^ 32) fun e' =>
      force (advance window) fun window =>
        rounds ks window a' a b c e' e f g
  | [], _, a, b, c, d, e, f, g, h => [a, b, c, d, e, f, g, h]

/-- Fold a block into the state. -/
def compress (state : List ℕ) (block : Bytes) : List ℕ :=
  match state with
  | [a, b, c, d, e, f, g, h] =>
      force (beNat block) fun window =>
        List.zipWith (fun x y => (x + y) % 2 ^ 32) state
          (rounds roundConstants window a b c d e f g h)
  | _ => state

/-- Evaluate a list of words and pass it on. -/
def forceAll {α : Type} : List ℕ → (List ℕ → α) → α
  | [], f => f []
  | w :: ws, f => force w fun w => forceAll ws fun ws => f (w :: ws)

/-- Fold `n` blocks into the state. -/
def blocks : ℕ → List ℕ → Bytes → List ℕ
  | 0, state, _ => state
  | n + 1, state, bs =>
      forceAll (compress state (bs.take 64)) fun state => blocks n state (bs.drop 64)

/-- The SHA-256 of a byte string. -/
def hash (msg : Bytes) : FixedBytes 32 :=
  force ((blocks ((pad msg).length / 64) initialState (pad msg)).foldl
    (fun v w => v * 2 ^ 32 + w) 0) fun digest => .ofNat 32 digest

example : hash [0x61, 0x62, 0x63] =
    .ofNat 32 0xba7816bf8f01cfea414140de5dae2223b00361a396177a9cb410ff61f20015ad := by
  decide +kernel

end Sha256
