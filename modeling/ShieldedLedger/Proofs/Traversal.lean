import Mathlib.Data.List.Perm.Basic
import ShieldedLedger.Log

/-!
# Traversals that may fail

A report is a traversal of the transactions, each of which is a traversal of its records, and both
stop at the first failure. This file says what the two outcomes of a traversal mean for the list as
a whole, and that a log kept on the way does not matter.

## Main results

* `mapM_eq_ok_iff` — a traversal succeeds element by element
* `mapM_eq_error_iff` — it fails with the first element that fails
* `exists_mapM_eq_ok_of_perm` — a success does not depend on the order of the elements
* `Logged.result_mapM` — its outcome is that of the outcomes
-/

namespace ShieldedLedger

variable {ε α β : Type}

theorem bind_eq_ok_iff {x : Except ε α} {f : α → Except ε β} {b : β} :
    (x >>= f) = .ok b ↔ ∃ a, x = .ok a ∧ f a = .ok b := by
  cases x with
  | error e => exact ⟨nofun, fun ⟨_, h, _⟩ => nomatch h⟩
  | ok a =>
    refine ⟨fun h => ⟨a, rfl, h⟩, ?_⟩
    rintro ⟨a', ha, h⟩
    cases ha
    exact h

theorem bind_eq_error_iff {x : Except ε α} {f : α → Except ε β} {e : ε} :
    (x >>= f) = .error e ↔ x = .error e ∨ ∃ a, x = .ok a ∧ f a = .error e := by
  cases x with
  | error e' =>
    refine ⟨fun h => .inl (congrArg _ (Except.error.inj h)), ?_⟩
    rintro (h | ⟨_, h, _⟩)
    · cases h
      rfl
    · cases h
  | ok a =>
    refine ⟨fun h => .inr ⟨a, rfl, h⟩, ?_⟩
    rintro (h | ⟨a', ha, h⟩)
    · cases h
    · cases ha
      exact h

/-- What follows a computation matters only for its result. -/
theorem bind_congr_of_ok {x : Except ε α} {f g : α → Except ε β}
    (h : ∀ a, x = .ok a → f a = g a) : x >>= f = x >>= g := by
  cases x with
  | error _ => rfl
  | ok a => exact h a rfl

/-- A pure step after a computation cannot fail. -/
theorem bind_pure_eq_error_iff {x : Except ε α} {g : α → β} {e : ε} :
    (x >>= fun a => pure (g a)) = .error e ↔ x = .error e := by
  rw [bind_eq_error_iff]
  exact or_iff_left fun ⟨_, _, h⟩ => nomatch h

theorem bind_pure_eq_ok_iff {x : Except ε α} {g : α → β} {b : β} :
    (x >>= fun a => pure (g a)) = .ok b ↔ ∃ a, x = .ok a ∧ b = g a := by
  rw [bind_eq_ok_iff]
  exact exists_congr fun a => and_congr_right fun _ =>
    ⟨fun h => (Except.ok.inj h).symm, fun h => congrArg _ h.symm⟩

/-- A traversal succeeds with the results of the elements, in order. -/
theorem mapM_eq_ok_iff {f : α → Except ε β} {xs : List α} {ys : List β} :
    xs.mapM f = .ok ys ↔ List.Forall₂ (fun x y => f x = .ok y) xs ys := by
  induction xs generalizing ys with
  | nil =>
    rw [List.mapM_nil, List.forall₂_nil_left_iff]
    exact ⟨fun h => (Except.ok.inj h).symm, fun h => congrArg _ h.symm⟩
  | cons x xs ih =>
    rw [List.mapM_cons, bind_eq_ok_iff, List.forall₂_cons_left_iff]
    constructor
    · rintro ⟨y, hy, h⟩
      obtain ⟨ys', hys', h⟩ := bind_eq_ok_iff.mp h
      cases h
      exact ⟨y, ys', hy, ih.mp hys', rfl⟩
    · rintro ⟨y, ys', hy, hys', rfl⟩
      exact ⟨y, hy, bind_eq_ok_iff.mpr ⟨ys', ih.mpr hys', rfl⟩⟩

theorem exists_ok_of_mapM {f : α → Except ε β} {xs : List α} {ys : List β}
    (h : xs.mapM f = .ok ys) : ∀ x ∈ xs, ∃ y, f x = .ok y :=
  ((List.forall₂_and_left _ _).mp ((mapM_eq_ok_iff.mp h).imp fun _ y hy => ⟨⟨y, hy⟩, hy⟩)).1

/-- A traversal that succeeds does so in every order, and the results are reordered likewise. -/
theorem exists_mapM_eq_ok_of_perm {f : α → Except ε β} {xs xs' : List α} (hperm : xs'.Perm xs)
    {ys : List β} (h : xs.mapM f = .ok ys) : ∃ ys', xs'.mapM f = .ok ys' ∧ ys'.Perm ys := by
  obtain ⟨ys', hys', hperm'⟩ := List.perm_comp_forall₂ hperm (mapM_eq_ok_iff.mp h)
  exact ⟨ys', mapM_eq_ok_iff.mpr hys', hperm'⟩

/-- A traversal fails with the first element that fails. -/
theorem mapM_eq_error_iff {f : α → Except ε β} {xs : List α} {e : ε} :
    xs.mapM f = .error e ↔
      ∃ before x after, xs = before ++ x :: after ∧
        (∀ y ∈ before, ∀ e', f y ≠ .error e') ∧ f x = .error e := by
  induction xs with
  | nil =>
    constructor
    · intro h
      cases h
    · rintro ⟨before, x, after, h, -⟩
      cases before <;> cases h
  | cons x xs ih =>
    rw [List.mapM_cons, bind_eq_error_iff]
    simp only [bind_pure_eq_error_iff, ih]
    constructor
    · rintro (h | ⟨y, hy, before, z, after, rfl, hbefore, hz⟩)
      · exact ⟨[], x, xs, rfl, nofun, h⟩
      · refine ⟨x :: before, z, after, rfl, List.forall_mem_cons.mpr ⟨?_, hbefore⟩, hz⟩
        simp [hy]
    · rintro ⟨before, z, after, hsplit, hbefore, hz⟩
      cases before with
      | nil =>
        cases hsplit
        exact .inl hz
      | cons y before =>
        cases hsplit
        obtain ⟨hx, hbefore⟩ := List.forall_mem_cons.mp hbefore
        cases hfx : f x with
        | error e' => exact absurd hfx (hx e')
        | ok y => exact .inr ⟨y, rfl, before, z, after, rfl, hbefore, hz⟩

/-- A traversal fails exactly if some element does. -/
theorem exists_mapM_eq_error_iff {f : α → Except ε β} {xs : List α} :
    (∃ e, xs.mapM f = .error e) ↔ ∃ x ∈ xs, ∃ e, f x = .error e := by
  constructor
  · rintro ⟨e, h⟩
    obtain ⟨before, x, after, rfl, -, hx⟩ := mapM_eq_error_iff.mp h
    exact ⟨x, List.mem_append_right _ List.mem_cons_self, e, hx⟩
  · rintro ⟨x, hx, e, he⟩
    cases h : xs.mapM f with
    | error e' => exact ⟨e', rfl⟩
    | ok ys =>
      obtain ⟨y, hy⟩ := exists_ok_of_mapM h x hx
      rw [hy] at he
      cases he

/-- The outcome of a traversal that keeps a log is the traversal of the outcomes. -/
theorem Logged.result_mapM (f : α → Logged β) (xs : List α) :
    (xs.mapM f).result = xs.mapM fun x => (f x).result := by
  induction xs with
  | nil => rfl
  | cons x xs ih => simp only [List.mapM_cons, result_bind, result_pure, ih]; rfl

end ShieldedLedger
