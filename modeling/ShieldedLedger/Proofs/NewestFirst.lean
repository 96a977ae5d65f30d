import Mathlib.Data.List.Nodup
import ShieldedLedger.Bundle

/-!
# Sorting by key

The entries of a report are sorted by a key that does not identify them: two transactions received
in one second may have equal keys. What the sorted list is then follows only if the sort is stable,
so stability is part of the specification, and with it the sorted list is the only one.

## Main definitions

* `StableDescending` — a list, stably sorted by a key, the greatest first

## Main results

* `StableDescending.unique` — there is one such list
* `StableDescending.map_key_eq`, `StableDescending.eq_of_nodup` — what it keeps when the list is
  reordered
* `newestFirst_stableDescending` — the sort of a report computes it
-/

namespace ShieldedLedger

theorem SortKey.ble_refl (k : SortKey) : k.ble k := by
  simpa using SortKey.ble_total k k

/-- A list has been sorted stably by a key, the greatest first: elements with equal keys stand as
they stood before. -/
structure StableDescending {α : Type} (key : α → SortKey) (l sorted : List α) : Prop where
  /-- Nothing is lost or added. -/
  perm : sorted.Perm l
  /-- No element stands before one with a greater key. -/
  ordered : sorted.Pairwise fun a b => (key b).ble (key a)
  /-- The elements of each key keep their order. -/
  stable : ∀ k, sorted.filter (key · = k) = l.filter (key · = k)

namespace StableDescending

variable {α : Type} {key : α → SortKey} {l sorted sorted' : List α}

/-- The first element is no smaller than any other. -/
theorem ble_head {a b : α} (h : (a :: l).Pairwise fun a b => (key b).ble (key a))
    (hb : b ∈ a :: l) : (key b).ble (key a) := by
  rcases List.mem_cons.mp hb with rfl | hmem
  · exact SortKey.ble_refl _
  · exact (List.pairwise_cons.mp h).1 b hmem

/-- Two sorted lists that agree key by key are the same list. The induction takes off the first
elements: their keys are equal, since each is no smaller than the other, and so they are both the
first element of that key. -/
theorem eq_of_filter_eq (hperm : sorted.Perm sorted')
    (h : sorted.Pairwise fun a b => (key b).ble (key a))
    (h' : sorted'.Pairwise fun a b => (key b).ble (key a))
    (hfilter : ∀ k, sorted.filter (key · = k) = sorted'.filter (key · = k)) :
    sorted = sorted' := by
  induction sorted generalizing sorted' with
  | nil => exact (List.nil_perm.mp hperm).symm
  | cons a rest ih =>
    cases sorted' with
    | nil => exact absurd (List.perm_nil.mp hperm) (by simp)
    | cons a' rest' =>
      have hle : (key a').ble (key a) :=
        ble_head h (hperm.mem_iff.mpr List.mem_cons_self)
      have hle' : (key a).ble (key a') :=
        ble_head h' (hperm.mem_iff.mp List.mem_cons_self)
      have hkey : key a = key a' := SortKey.ble_antisymm hle' hle
      have haa' : a = a' := by
        have hsame := hfilter (key a)
        rw [List.filter_cons_of_pos (by simp), List.filter_cons_of_pos (by simp [hkey])] at hsame
        exact (List.cons.inj hsame).1
      subst haa'
      refine congrArg (a :: ·) (ih hperm.cons_inv h.of_cons h'.of_cons fun k => ?_)
      have hsame := hfilter k
      rw [List.filter_cons, List.filter_cons] at hsame
      split at hsame
      · exact (List.cons.inj hsame).2
      · exact hsame

/-- **There is one way to sort a list stably.** -/
theorem unique (h : StableDescending key l sorted) (h' : StableDescending key l sorted') :
    sorted = sorted' :=
  eq_of_filter_eq (h.perm.trans h'.perm.symm) h.ordered h'.ordered fun k =>
    (h.stable k).trans (h'.stable k).symm

/-- The keys do not depend on the order of what is sorted. -/
theorem map_key_eq {l' : List α} (hperm : l.Perm l') (h : StableDescending key l sorted)
    (h' : StableDescending key l' sorted') : sorted.map key = sorted'.map key := by
  have hkeys : (sorted.map key).Perm (sorted'.map key) :=
    ((h.perm.trans hperm).trans h'.perm.symm).map key
  exact hkeys.eq_of_pairwise (fun _ _ _ _ hle hle' => SortKey.ble_antisymm hle' hle)
    (List.pairwise_map.mpr h.ordered) (List.pairwise_map.mpr h'.ordered)

/-- Without ties the sorted list does not depend on it either. -/
theorem eq_of_nodup {l' : List α} (hperm : l.Perm l') (h : StableDescending key l sorted)
    (h' : StableDescending key l' sorted') (hnodup : (sorted.map key).Nodup) :
    sorted = sorted' := by
  have hsorted : sorted.Perm sorted' := (h.perm.trans hperm).trans h'.perm.symm
  refine hsorted.eq_of_pairwise (fun a b ha hb hle hle' => ?_) h.ordered h'.ordered
  exact List.inj_on_of_nodup_map hnodup ha (hsorted.mem_iff.mpr hb)
    (SortKey.ble_antisymm hle' hle)

end StableDescending

/-- The sort of a report is stable. The elements of one key are a sorted part of the list, and a
stable sort keeps such parts. -/
theorem newestFirst_stableDescending (entries : List ReportEntry) :
    StableDescending (·.status.sortKey) entries (newestFirst entries) := by
  have htrans : ∀ a b c : ReportEntry, b.status.sortKey.ble a.status.sortKey →
      c.status.sortKey.ble b.status.sortKey → c.status.sortKey.ble a.status.sortKey :=
    fun a b c hab hbc => SortKey.ble_trans hbc hab
  have htotal : ∀ a b : ReportEntry, (b.status.sortKey.ble a.status.sortKey ||
      a.status.sortKey.ble b.status.sortKey) = true :=
    fun a b => SortKey.ble_total _ _
  have hperm : (newestFirst entries).Perm entries := List.mergeSort_perm _ _
  refine ⟨hperm, List.pairwise_mergeSort htrans htotal entries, fun k => ?_⟩
  have hequal : (entries.filter (·.status.sortKey = k)).Pairwise
      fun a b => b.status.sortKey.ble a.status.sortKey := by
    refine List.pairwise_of_forall_mem_list fun a ha b hb => ?_
    rw [of_decide_eq_true (List.mem_filter.mp ha).2, of_decide_eq_true (List.mem_filter.mp hb).2]
    exact SortKey.ble_refl k
  have hsublist : (entries.filter (·.status.sortKey = k)).Sublist (newestFirst entries) :=
    List.sublist_mergeSort htrans htotal hequal List.filter_sublist
  have hkept := hsublist.filter (·.status.sortKey = k)
  rw [List.filter_filter] at hkept
  simp only [Bool.and_self] at hkept
  exact (hkept.eq_of_length (hperm.filter _).length_eq.symm).symm

theorem mem_newestFirst {entry : ReportEntry} {entries : List ReportEntry} :
    entry ∈ newestFirst entries ↔ entry ∈ entries :=
  (newestFirst_stableDescending entries).perm.mem_iff

end ShieldedLedger
