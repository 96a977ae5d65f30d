import Mathlib.Data.List.Basic
import Mathlib.Data.List.Induction
import Mathlib.Data.List.Sort
import ShieldedLedger.SortedMap

/-!
# Laws of maps in key order

What a map in key order holds is said in two ways, by its entries and by its look-ups, and it is
written down in one way only. This file connects the two: an entry is found under its key, what is
written over itself stays as it is, and a map is rebuilt from its entries.

## Main results

* `SortedMap.get?_of_mem`, `SortedMap.mem_keys_iff` — entries and look-ups
* `SortedMap.flatMap_keys_get?` — the keys of one map, looked up in another
* `SortedMap.get?_erase_self`, `SortedMap.get?_erase_of_ne` — what a removal does to look-ups
* `SortedMap.insert_of_get?`, `SortedMap.flatMap_keys_insert` — insertions that change nothing
* `SortedMap.ofList_entries`, `SortedSet.ofMembers_keys` — maps and sets are rebuilt
* `SortedMap.get?_ofList` — what a map holds that is built from any list
-/

namespace ShieldedLedger

namespace SortedMap

variable {κ α : Type} [LT κ]

theorem ext_entries {m n : SortedMap κ α} (h : m.entries = n.entries) : m = n := by
  cases m
  cases n
  cases h
  rfl

variable [DecidableEq κ]

/-! ### Entries and look-ups -/

theorem mem_keys_iff {m : SortedMap κ α} {k : κ} : k ∈ m.keys ↔ m.contains k := by
  rw [contains, get?, List.lookup_isSome_iff, keys, List.mem_map]
  refine exists_congr fun e => and_congr_right fun _ => ?_
  rw [beq_iff_eq, eq_comm]

theorem mem_of_get? {m : SortedMap κ α} {k : κ} {v : α} (h : m.get? k = some v) :
    (k, v) ∈ m.entries := by
  obtain ⟨before, after, heq, -⟩ := List.lookup_eq_some_iff.mp h
  simp [heq]

theorem get?_erase_self (m : SortedMap κ α) (k : κ) : (m.erase k).get? k = none := by
  rw [get?, List.lookup_eq_none_iff]
  intro e he
  have hne : e.1 ≠ k := of_decide_eq_true (List.mem_filter.mp he).2
  exact bne_iff_ne.mpr hne.symm

theorem get?_erase_of_ne (m : SortedMap κ α) {k k' : κ} (h : k' ≠ k) :
    (m.erase k).get? k' = m.get? k' := by
  change (m.entries.filter _).lookup k' = m.entries.lookup k'
  induction m.entries with
  | nil => rfl
  | cons e rest ih =>
    obtain ⟨k₁, v₁⟩ := e
    by_cases hk : k₁ = k
    · subst hk
      simpa [List.lookup_cons, beq_false_of_ne h] using ih
    · rw [List.filter_cons_of_pos (by simpa using hk), List.lookup_cons, List.lookup_cons, ih]

variable [LE κ] [Std.LawfulOrderLT κ]

/-- No two entries have one key, so an entry is what its key finds. -/
theorem get?_of_mem {m : SortedMap κ α} {k : κ} {v : α} (h : (k, v) ∈ m.entries) :
    m.get? k = some v := by
  obtain ⟨before, after, heq⟩ := List.append_of_mem h
  refine List.lookup_eq_some_iff.mpr ⟨before, after, heq, fun e he => ?_⟩
  have hlt : e.1 < k := (List.pairwise_append.mp (heq ▸ m.sorted)).2.2 e he _ List.mem_cons_self
  exact bne_iff_ne.mpr fun hk => Std.lt_irrefl (hk ▸ hlt)

/-! ### Two maps with keys in common -/

theorem flatMap_filter {β γ : Type} (p : β → Bool) (f : β → List γ) (l : List β) :
    (l.filter p).flatMap f = l.flatMap fun a => if p a then f a else [] := by
  induction l with
  | nil => rfl
  | cons a l ih =>
    rw [List.flatMap_cons, ← ih, List.filter_cons]
    split <;> simp

section CommonKeys

variable [Std.IsLinearOrder κ]

/-- The common keys of two maps stand in one order in both. -/
theorem keys_filter_contains {β : Type} (s : SortedMap κ β) (m : SortedMap κ α) :
    s.keys.filter m.contains = (m.entries.filter fun e => s.contains e.1).map Prod.fst := by
  have hleft : (s.keys.filter m.contains).Pairwise (· < ·) :=
    (List.pairwise_map.mpr s.sorted).filter _
  have hright : ((m.entries.filter fun e => s.contains e.1).map Prod.fst).Pairwise (· < ·) :=
    List.pairwise_map.mpr (m.sorted.filter _)
  refine List.Pairwise.eq_of_mem_iff hleft hright fun k => ?_
  rw [List.mem_filter, List.mem_map]
  constructor
  · rintro ⟨hs, hm⟩
    obtain ⟨e, he, rfl⟩ := List.mem_map.mp (mem_keys_iff.mpr hm)
    exact ⟨e, List.mem_filter.mpr ⟨he, mem_keys_iff.mp hs⟩, rfl⟩
  · rintro ⟨e, he, rfl⟩
    obtain ⟨hmem, hs⟩ := List.mem_filter.mp he
    exact ⟨mem_keys_iff.mpr hs, mem_keys_iff.mp (List.mem_map_of_mem hmem)⟩

/-- **Looking up the keys of one map in another finds entries of the other, in their order.** -/
theorem flatMap_keys_get? {β γ : Type} (s : SortedMap κ β) (m : SortedMap κ α)
    (f : κ → α → List γ) :
    (s.keys.flatMap fun k => ((m.get? k).map (f k)).getD []) =
      (m.entries.filter fun e => s.contains e.1).flatMap fun e => f e.1 e.2 := by
  have hcommon : ∀ k ∈ s.keys, ((m.get? k).map (f k)).getD [] =
      if m.contains k then ((m.get? k).map (f k)).getD [] else [] := by
    intro k _
    cases hk : m.get? k <;> simp [contains, hk]
  rw [List.flatMap_congr hcommon, ← flatMap_filter, keys_filter_contains, List.flatMap_map]
  refine List.flatMap_congr fun e he => ?_
  rw [get?_of_mem (List.mem_of_mem_filter he)]
  rfl

end CommonKeys

/-! ### Insertions that change nothing -/

variable [DecidableLT κ]

omit [LE κ] [Std.LawfulOrderLT κ] in
theorem flatMap_insertEntry {β : Type} {f : κ → List β} {k : κ} (h : f k = []) (v : α)
    (l : List (κ × α)) :
    (insertEntry k v l).flatMap (fun e => f e.1) = l.flatMap fun e => f e.1 := by
  induction l with
  | nil => simp [insertEntry, h]
  | cons e rest ih =>
    rw [insertEntry]
    split
    · simp [h]
    · split
      · next heq => simp [h, ← heq]
      · rw [List.flatMap_cons, List.flatMap_cons, ih]

variable [Std.IsLinearOrder κ]

/-- A key to which nothing belongs adds nothing to what belongs to the keys. -/
theorem flatMap_keys_insert {β : Type} {f : κ → List β} (m : SortedMap κ α) {k : κ}
    (h : f k = []) (v : α) : (m.insert k v).keys.flatMap f = m.keys.flatMap f := by
  rw [keys, keys, List.flatMap_map, List.flatMap_map]
  exact flatMap_insertEntry h v m.entries

theorem insertEntry_of_mem {k : κ} {v : α} {l : List (κ × α)}
    (hsorted : l.Pairwise fun a b => a.1 < b.1) (h : (k, v) ∈ l) : insertEntry k v l = l := by
  induction l with
  | nil => cases h
  | cons e rest ih =>
    obtain ⟨hhead, hrest⟩ := List.pairwise_cons.mp hsorted
    rw [insertEntry]
    rcases List.mem_cons.mp h with rfl | hmem
    · rw [if_neg Std.lt_irrefl, if_pos rfl]
    · have hlt : e.1 < k := hhead _ hmem
      have hnlt : ¬k < e.1 := fun hk => Std.lt_irrefl (Std.lt_trans hk hlt)
      have hne : k ≠ e.1 := fun hk => Std.lt_irrefl (hk ▸ hlt)
      rw [if_neg hnlt, if_neg hne, ih hrest hmem]

/-- What is written over itself stays as it is. -/
theorem insert_of_get? {m : SortedMap κ α} {k : κ} {v : α} (h : m.get? k = some v) :
    m.insert k v = m :=
  ext_entries (insertEntry_of_mem m.sorted (mem_of_get? h))

/-! ### Rebuilding -/

theorem insertEntry_of_forall_lt {k : κ} {v : α} {l : List (κ × α)} (h : ∀ e ∈ l, e.1 < k) :
    insertEntry k v l = l ++ [(k, v)] := by
  induction l with
  | nil => rfl
  | cons e rest ih =>
    obtain ⟨hlt, hrest⟩ := List.forall_mem_cons.mp h
    have hnlt : ¬k < e.1 := fun hk => Std.lt_irrefl (Std.lt_trans hk hlt)
    have hne : k ≠ e.1 := fun hk => Std.lt_irrefl (hk ▸ hlt)
    rw [insertEntry, if_neg hnlt, if_neg hne, ih hrest, List.cons_append]

/-- Entries that come in order are appended one by one. -/
theorem entries_foldl_insert (l : List (κ × α)) (m : SortedMap κ α)
    (h : (m.entries ++ l).Pairwise fun a b => a.1 < b.1) :
    (l.foldl (fun m e => m.insert e.1 e.2) m).entries = m.entries ++ l := by
  induction l generalizing m with
  | nil => simp
  | cons e rest ih =>
    have hlt : ∀ d ∈ m.entries, d.1 < e.1 := fun d hd =>
      (List.pairwise_append.mp h).2.2 d hd e List.mem_cons_self
    have hinsert : (m.insert e.1 e.2).entries = m.entries ++ [e] := insertEntry_of_forall_lt hlt
    rw [List.foldl_cons, ih, hinsert, List.append_assoc, List.singleton_append]
    rwa [hinsert, List.append_assoc, List.singleton_append]

/-- **A map is rebuilt from its entries.** -/
theorem ofList_entries (m : SortedMap κ α) : ofList m.entries = m :=
  ext_entries ((entries_foldl_insert m.entries empty m.sorted).trans (List.nil_append _))

/-- **Of several entries with one key, the map of a list holds the last.** -/
theorem get?_ofList (l : List (κ × α)) (k : κ) : (ofList l).get? k = l.reverse.lookup k := by
  induction l using List.reverseRecOn with
  | nil => rfl
  | append_singleton l e ih =>
    have hlast : ofList (l ++ [e]) = (ofList l).insert e.1 e.2 := List.foldl_concat ..
    rw [hlast, List.reverse_concat, List.lookup_cons]
    by_cases hk : k = e.1
    · rw [hk, get?_insert_self, beq_self_eq_true]
    · rw [get?_insert_of_ne _ hk, beq_false_of_ne hk, ih]

/-- Only what was listed is in the map of a list. -/
theorem mem_of_mem_ofList {l : List (κ × α)} {e : κ × α} (h : e ∈ (ofList l).entries) :
    e ∈ l := by
  suffices hfold : ∀ (l : List (κ × α)) (m : SortedMap κ α),
      e ∈ (l.foldl (fun m e => m.insert e.1 e.2) m).entries → e ∈ m.entries ∨ e ∈ l by
    exact (hfold l empty h).resolve_left List.not_mem_nil
  intro l
  induction l with
  | nil => exact fun m hm => .inl hm
  | cons d rest ih =>
    intro m hm
    rcases ih _ hm with hmem | hmem
    · rcases mem_insertEntry hmem with rfl | hmem
      · exact .inr List.mem_cons_self
      · exact .inl hmem
    · exact .inr (List.mem_cons_of_mem d hmem)

end SortedMap

namespace SortedSet

variable {κ : Type} [LT κ]

theorem entries_eq_map_keys (s : SortedSet κ) : s.entries = s.keys.map fun k => (k, ()) := by
  rw [SortedMap.keys, List.map_map]
  exact (List.map_id _).symm

variable [DecidableEq κ] [DecidableLT κ] [LE κ] [Std.IsLinearOrder κ] [Std.LawfulOrderLT κ]

/-- A member is not added twice. -/
theorem add_of_contains {s : SortedSet κ} {k : κ} (h : s.contains k) : SortedSet.add s k = s :=
  SortedMap.insert_of_get? (Option.isSome_iff_exists.mp h).choose_spec

/-- **A set is rebuilt from its members.** -/
theorem ofMembers_keys (s : SortedSet κ) : ofMembers s.keys = s := by
  have hfold : ofMembers s.keys = SortedMap.ofList (s.keys.map fun k => (k, ())) := by
    rw [SortedMap.ofList, List.foldl_map]
    rfl
  rw [hfold, ← entries_eq_map_keys, SortedMap.ofList_entries]

end SortedSet

end ShieldedLedger
