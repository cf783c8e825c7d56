/-
**Validators as lists of checks.**

A validator goes through its checks one after the other and returns the error of the first that
fails.  What such a program does is said completely by the list of its checks, each of them a
condition and an error, in order; the loops, the accumulators and the early returns are only the way
it goes through the list.  A call *obeys* a list of checks when it succeeds only if all of them hold
and fails only with the error of the first that does not.

Obedience is proved along the program, like a triple of a program logic: there is one rule for each
construct, and a sequence obeys the concatenation of the two lists, where the second program may
rely on what the first returned.  A call may also panic, which is neither success nor failure;
obedience does not say when.

Main definitions:

* `Check`, `FirstFailure` — a check, and the error of the first that fails;
* `Outcome.Obeys` — a call obeys a list of checks.

Main results:

* `FirstFailure.unique`, `exists_firstFailure_iff` — there is one first failure when some check
  fails, and none otherwise;
* `firstFailure_append`, `firstFailure_iff_split` — where it is;
* `Outcome.Obeys.bind`, `Outcome.Obeys.rejectIf`, `Outcome.Obeys.ofOption`, `Outcome.Obeys.okOr`,
  `Outcome.Obeys.each` — **the rules**;
* `Outcome.Obeys.eq_err_iff` — **an obedient call that does not panic fails with the first failure**.
-/

import ArmMultisig.Outcome

set_option relaxedAutoImplicit false
set_option autoImplicit false

/-- A check: what must hold, and the error when it does not. -/
structure Check (ε : Type) where
  holds : Prop
  error : ε

/-- The error of the first check of a list that fails. -/
inductive FirstFailure {ε : Type} : List (Check ε) → ε → Prop where
  | here {check : Check ε} {rest : List (Check ε)} (fails : ¬ check.holds) :
      FirstFailure (check :: rest) check.error
  | later {check : Check ε} {rest : List (Check ε)} {e : ε} (passes : check.holds)
      (failure : FirstFailure rest e) : FirstFailure (check :: rest) e

section FirstFailure

variable {ε : Type} {checks checks' : List (Check ε)} {e e' : ε}

theorem not_firstFailure_nil : ¬ FirstFailure ([] : List (Check ε)) e := by
  intro h
  cases h

/-- The first check fails. -/
theorem FirstFailure.fail {holds : Prop} (h : ¬ holds) : FirstFailure (⟨holds, e⟩ :: checks) e :=
  @FirstFailure.here _ ⟨holds, e⟩ _ h

/-- The first check passes. -/
theorem FirstFailure.pass {holds : Prop} (h : holds) {e' : ε} (failure : FirstFailure checks e) :
    FirstFailure (⟨holds, e'⟩ :: checks) e :=
  .later h failure

theorem firstFailure_cons {check : Check ε} :
    FirstFailure (check :: checks) e ↔
      (¬ check.holds ∧ check.error = e) ∨ (check.holds ∧ FirstFailure checks e) := by
  constructor
  · intro h
    cases h with
    | here fails => exact Or.inl ⟨fails, rfl⟩
    | later passes failure => exact Or.inr ⟨passes, failure⟩
  · rintro (⟨fails, rfl⟩ | ⟨passes, failure⟩)
    · exact .here fails
    · exact .later passes failure

/-- When a check fails, some check is the first that does. -/
theorem exists_firstFailure_iff : (∃ e, FirstFailure checks e) ↔ ¬ ∀ check ∈ checks, check.holds := by
  induction checks with
  | nil => simp [not_firstFailure_nil]
  | cons check rest ih =>
      simp only [firstFailure_cons, List.forall_mem_cons, not_and]
      constructor
      · rintro ⟨e, ⟨fails, -⟩ | ⟨-, failure⟩⟩
        · exact fun passes => absurd passes fails
        · exact fun _ => ih.1 ⟨e, failure⟩
      · intro h
        by_cases passes : check.holds
        · obtain ⟨e, failure⟩ := ih.2 (h passes)
          exact ⟨e, Or.inr ⟨passes, failure⟩⟩
        · exact ⟨check.error, Or.inl ⟨passes, rfl⟩⟩

/-- A list with a first failure does not hold throughout. -/
theorem FirstFailure.not_forall (h : FirstFailure checks e) : ¬ ∀ check ∈ checks, check.holds :=
  exists_firstFailure_iff.1 ⟨e, h⟩

/-- **There is one first failure.** -/
theorem FirstFailure.unique (h : FirstFailure checks e) (h' : FirstFailure checks e') : e = e' := by
  induction h with
  | here fails =>
      cases h' with
      | here => rfl
      | later passes => exact absurd passes fails
  | later passes _ ih =>
      cases h' with
      | here fails => exact absurd passes fails
      | later _ failure => exact ih failure

/-- The first failure of two lists is that of the first list, or else that of the second. -/
theorem firstFailure_append :
    FirstFailure (checks ++ checks') e ↔
      FirstFailure checks e ∨ ((∀ check ∈ checks, check.holds) ∧ FirstFailure checks' e) := by
  induction checks with
  | nil => simp [not_firstFailure_nil]
  | cons check rest ih =>
      rw [List.cons_append, firstFailure_cons, firstFailure_cons, ih, List.forall_mem_cons]
      tauto

/-- The first of two lists fails. -/
theorem FirstFailure.inLeft (h : FirstFailure checks e) : FirstFailure (checks ++ checks') e :=
  firstFailure_append.2 (Or.inl h)

/-- The first of two lists holds, and the second fails. -/
theorem FirstFailure.inRight (hall : ∀ check ∈ checks, check.holds)
    (h : FirstFailure checks' e) : FirstFailure (checks ++ checks') e :=
  firstFailure_append.2 (Or.inr ⟨hall, h⟩)

/-- **The checks before the first failure hold**, and it does not. -/
theorem firstFailure_iff_split :
    FirstFailure checks e ↔ ∃ before check after, checks = before ++ check :: after ∧
      (∀ passed ∈ before, passed.holds) ∧ ¬ check.holds ∧ check.error = e := by
  constructor
  · intro h
    induction h with
    | @here check rest fails => exact ⟨[], check, rest, rfl, List.forall_mem_nil _, fails, rfl⟩
    | @later check rest e passes _ ih =>
        obtain ⟨before, failed, after, rfl, hbefore, hfailed, herror⟩ := ih
        exact ⟨check :: before, failed, after, rfl, List.forall_mem_cons.2 ⟨passes, hbefore⟩,
          hfailed, herror⟩
  · rintro ⟨before, check, after, rfl, hbefore, hfailed, rfl⟩
    exact .inRight hbefore (.here hfailed)

/-- Renaming the errors renames that of the first failure. -/
theorem FirstFailure.map {ε' : Type} (f : ε → ε') (h : FirstFailure checks e) :
    FirstFailure (checks.map fun check => ⟨check.holds, f check.error⟩) (f e) := by
  induction h with
  | @here check rest fails => exact .fail fails
  | later passes _ ih => exact .later passes ih

end FirstFailure

namespace Outcome

/-- A call **obeys** a list of checks: it succeeds only when all of them hold, and fails only with
the error of the first that does not. -/
structure Obeys {ε α : Type} (x : Outcome ε α) (checks : List (Check ε)) : Prop where
  ok : ∀ a, x = .ok a → ∀ check ∈ checks, check.holds
  err : ∀ e, x = .err e → FirstFailure checks e

namespace Obeys

variable {ε ε' α β : Type} {x : Outcome ε α} {checks checks' : List (Check ε)}

/-! ### Rules -/

/-- A call that does not fail obeys no check at all. -/
theorem of_ne_err (h : ∀ e, x ≠ .err e) : x.Obeys [] where
  ok _ _ := List.forall_mem_nil _
  err e hx := absurd hx (h e)

theorem pure (a : α) : (Outcome.ok a : Outcome ε α).Obeys [] where
  ok _ _ := List.forall_mem_nil _
  err e h := by cases h

/-- A call that panics obeys any checks. -/
theorem panic (checks : List (Check ε)) : (Outcome.panic : Outcome ε α).Obeys checks where
  ok a h := by cases h
  err e h := by cases h

/-- A call that fails at its first check. -/
theorem fail {holds : Prop} (h : ¬ holds) (e : ε) (checks : List (Check ε)) :
    (Outcome.err e : Outcome ε α).Obeys (⟨holds, e⟩ :: checks) where
  ok a ha := by cases ha
  err e' he := by
    obtain rfl := Outcome.err.inj he
    exact .here h

/-- A call that passes its first check. -/
theorem pass {holds : Prop} (h : holds) {e : ε} (hx : x.Obeys checks) :
    x.Obeys (⟨holds, e⟩ :: checks) where
  ok a ha := List.forall_mem_cons.2 ⟨h, hx.ok a ha⟩
  err e' he := .later h (hx.err e' he)

/-- **A sequence**: the second call may rely on what the first returned. -/
theorem bind {f : α → Outcome ε β} (hx : x.Obeys checks)
    (hf : ∀ a, x = .ok a → (f a).Obeys checks') : (x >>= f).Obeys (checks ++ checks') where
  ok b h := by
    obtain ⟨a, ha, hb⟩ := bind_eq_ok.1 h
    exact List.forall_mem_append.2 ⟨hx.ok a ha, (hf a ha).ok b hb⟩
  err e h := by
    cases hcall : x with
    | ok a =>
        rw [hcall, ok_bind] at h
        exact .inRight (hx.ok a hcall) ((hf a hcall).err e h)
    | err e' =>
        rw [hcall, err_bind] at h
        obtain rfl := Outcome.err.inj h
        exact .inLeft (hx.err e' hcall)
    | panic =>
        rw [hcall, panic_bind] at h
        cases h

/-- Two checks with one error are one check. -/
theorem merge {P Q holds : Prop} {e : ε} (h : holds ↔ P ∧ Q)
    (hx : x.Obeys (⟨P, e⟩ :: ⟨Q, e⟩ :: checks)) : x.Obeys (⟨holds, e⟩ :: checks) where
  ok a ha := by
    obtain ⟨hp, hall⟩ := List.forall_mem_cons.1 (hx.ok a ha)
    obtain ⟨hq, hrest⟩ := List.forall_mem_cons.1 hall
    exact List.forall_mem_cons.2 ⟨h.2 ⟨hp, hq⟩, hrest⟩
  err e' he := by
    rw [firstFailure_cons, h]
    rcases firstFailure_cons.1 (hx.err e' he) with ⟨hp, rfl⟩ | ⟨hp, hlater⟩
    · exact Or.inl ⟨fun hholds => hp hholds.1, rfl⟩
    rcases firstFailure_cons.1 hlater with ⟨hq, rfl⟩ | ⟨hq, hlater⟩
    · exact Or.inl ⟨fun hholds => hq hholds.2, rfl⟩
    · exact Or.inr ⟨⟨hp, hq⟩, hlater⟩

/-- A call that does not fail, before one that does. -/
theorem bind_of_ne_err {f : α → Outcome ε β} (hx : ∀ e, x ≠ .err e)
    (hf : ∀ a, x = .ok a → (f a).Obeys checks) : (x >>= f).Obeys checks :=
  (of_ne_err hx).bind hf

/-- A guard. -/
theorem rejectIf {cond holds : Prop} [Decidable cond] {e : ε} (h : holds ↔ ¬ cond) :
    (Outcome.rejectIf cond e).Obeys [⟨holds, e⟩] where
  ok u hu := List.forall_mem_singleton.2 (h.2 (rejectIf_eq_ok.1 hu))
  err e' he := by
    by_cases hcond : cond
    · rw [Outcome.rejectIf, if_pos hcond] at he
      obtain rfl := Outcome.err.inj he
      exact .here fun hholds => h.1 hholds hcond
    · rw [Outcome.rejectIf, if_neg hcond] at he
      cases he

/-- What follows does not fail. -/
theorem map (f : α → β) (hx : x.Obeys checks) : (x >>= fun a => .ok (f a)).Obeys checks := by
  rw [← List.append_nil checks]
  exact hx.bind fun a _ => pure (f a)

/-- A call with one check, and what follows it. -/
theorem andThen {holds : Prop} {e : ε} {f : α → Outcome ε β} (hx : x.Obeys [⟨holds, e⟩])
    (hf : ∀ a, x = .ok a → (f a).Obeys checks) : (x >>= f).Obeys (⟨holds, e⟩ :: checks) :=
  hx.bind hf

/-- **A guard, and what follows it.** -/
theorem guard {cond holds : Prop} [Decidable cond] {e : ε} {f : Unit → Outcome ε β}
    (h : holds ↔ ¬ cond) (hf : holds → (f ()).Obeys checks) :
    (Outcome.rejectIf cond e >>= f).Obeys (⟨holds, e⟩ :: checks) :=
  (rejectIf h).andThen fun _ hu => hf (h.2 (rejectIf_eq_ok.1 hu))

/-- The conversion of an option. -/
theorem ofOption {opt : Option α} {e : ε} {holds : Prop} (h : holds ↔ ∃ a, opt = some a) :
    (Outcome.ofOption opt e).Obeys [⟨holds, e⟩] where
  ok a ha := List.forall_mem_singleton.2 (h.2 ⟨a, ofOption_eq_ok.1 ha⟩)
  err e' he := by
    cases hopt : opt with
    | none =>
        rw [hopt, Outcome.ofOption] at he
        obtain rfl := Outcome.err.inj he
        refine .here fun hholds => ?_
        obtain ⟨a, ha⟩ := h.1 hholds
        rw [hopt] at ha
        cases ha
    | some a =>
        rw [hopt, Outcome.ofOption] at he
        cases he

/-- The conversion of a call that returns an option. -/
theorem okOr {x : Outcome Unit α} {e : ε} {holds : Prop} (h : holds ↔ ∃ a, x = .ok a) :
    (Outcome.okOr x e).Obeys [⟨holds, e⟩] where
  ok a ha := List.forall_mem_singleton.2 (h.2 ⟨a, okOr_eq_ok.1 ha⟩)
  err e' he := by
    cases hx : x with
    | ok a =>
        rw [hx, Outcome.okOr, mapErr] at he
        cases he
    | err u =>
        rw [hx, Outcome.okOr, mapErr] at he
        obtain rfl := Outcome.err.inj he
        refine .here fun hholds => ?_
        obtain ⟨a, ha⟩ := h.1 hholds
        rw [hx] at ha
        cases ha
    | panic =>
        rw [hx, Outcome.okOr, mapErr] at he
        cases he

/-- The errors of a call are renamed. -/
theorem mapErr {f : ε → ε'} (hx : x.Obeys checks) :
    (Outcome.mapErr f x).Obeys (checks.map fun check => ⟨check.holds, f check.error⟩) where
  ok a ha := by
    rw [List.forall_mem_map]
    exact hx.ok a (mapErr_eq_ok.1 ha)
  err e' he := by
    cases hcall : x with
    | ok a =>
        rw [hcall, Outcome.mapErr] at he
        cases he
    | err e =>
        rw [hcall, Outcome.mapErr] at he
        obtain rfl := Outcome.err.inj he
        exact (hx.err e hcall).map f
    | panic =>
        rw [hcall, Outcome.mapErr] at he
        cases he

/-- **A checking loop** obeys the checks of its turns, in order. -/
theorem each {f : α → Outcome ε Unit} {turn : α → List (Check ε)} {l : List α}
    (h : ∀ a ∈ l, (f a).Obeys (turn a)) : (Outcome.each f l).Obeys (l.flatMap turn) := by
  induction l with
  | nil => exact pure ()
  | cons a l ih =>
      obtain ⟨ha, hl⟩ := List.forall_mem_cons.1 h
      rw [List.flatMap_cons]
      exact ha.bind fun _ _ => ih hl

/-- A checking loop whose turns have one error. -/
theorem each_same {f : α → Outcome ε Unit} {P : α → Prop} {e : ε} {l : List α} {holds : Prop}
    (hP : holds ↔ ∀ a ∈ l, P a) (h : ∀ a ∈ l, (f a).Obeys [⟨P a, e⟩]) :
    (Outcome.each f l).Obeys [⟨holds, e⟩] where
  ok u hu := by
    refine List.forall_mem_singleton.2 (hP.2 fun a ha => ?_)
    exact (each h).ok u hu _ (List.mem_flatMap.2 ⟨a, ha, List.mem_singleton.2 rfl⟩)
  err e' he := by
    obtain ⟨before, check, after, hsplit, -, hfails, rfl⟩ :=
      firstFailure_iff_split.1 ((each h).err e' he)
    -- the check that fails is that of some turn
    have hmem : check ∈ l.flatMap fun a => [⟨P a, e⟩] := hsplit ▸ List.mem_append_cons_self
    obtain ⟨a, ha, hcheck⟩ := List.mem_flatMap.1 hmem
    obtain rfl := List.mem_singleton.1 hcheck
    exact .fail fun hholds => hfails (hP.1 hholds a ha)

/-- A call with one possible error, that fails unless a condition holds. -/
theorem of_eq_err {holds : Prop} {e : ε} (hok : ∀ a, x = .ok a → holds)
    (herr : ∀ e', x = .err e' → e' = e ∧ ¬ holds) : x.Obeys [⟨holds, e⟩] where
  ok a ha := List.forall_mem_singleton.2 (hok a ha)
  err e' he := by
    obtain ⟨rfl, hfails⟩ := herr e' he
    exact .fail hfails

/-! ### What an obedient call returns -/

/-- **An obedient call that does not panic fails with the error of the first check that fails.** -/
theorem eq_err_iff (hx : x.Obeys checks) {e : ε} :
    x = .err e ↔ x ≠ .panic ∧ FirstFailure checks e := by
  constructor
  · intro h
    exact ⟨h ▸ err_ne_panic e, hx.err e h⟩
  · rintro ⟨hpanic, hfirst⟩
    cases hcall : x with
    | ok a => exact absurd (hx.ok a hcall) hfirst.not_forall
    | err e' => rw [(hx.err e' hcall).unique hfirst]
    | panic => exact absurd hcall hpanic

end Obeys

end Outcome
