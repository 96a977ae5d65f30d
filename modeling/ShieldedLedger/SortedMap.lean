/-!
# Maps in key order

A map is a list of entries whose keys strictly increase. That order is part of the type, so two
maps with the same entries are equal, and a map is written down in one way only.

## Main definitions

* `SortedMap`: the map; `get?`, `insert`, `erase`, `ofList`
* `SortedSet`: a set, as the map that gives nothing to each member

## Main results

* `SortedMap.get?_insert_self`, `SortedMap.get?_insert_of_ne`: what an insertion does to look-ups
-/

namespace ShieldedLedger

/-- A finite map from `κ` to `α`, kept in the order of its keys. -/
structure SortedMap (κ α : Type) [LT κ] where
  /-- The entries, by increasing key. -/
  entries : List (κ × α)
  /-- No key stands before a smaller or equal one. -/
  sorted : entries.Pairwise fun a b => a.1 < b.1
  deriving DecidableEq, Repr

namespace SortedMap

variable {κ α : Type} [LT κ]

/-- The map without entries. -/
def empty : SortedMap κ α := ⟨[], .nil⟩

instance : EmptyCollection (SortedMap κ α) := ⟨empty⟩

instance : Inhabited (SortedMap κ α) := ⟨empty⟩

/-- The keys, in increasing order. -/
def keys (m : SortedMap κ α) : List κ := m.entries.map Prod.fst

variable [DecidableEq κ]

/-- The value at a key. -/
def get? (m : SortedMap κ α) (k : κ) : Option α := m.entries.lookup k

/-- Whether a key has a value. -/
def contains (m : SortedMap κ α) (k : κ) : Bool := (m.get? k).isSome

/-- The map without the entry of a key. -/
def erase (m : SortedMap κ α) (k : κ) : SortedMap κ α :=
  ⟨m.entries.filter fun e => decide (e.1 ≠ k), m.sorted.filter _⟩

/-! ### Insertion -/

variable [DecidableLT κ]

/-- Puts an entry in its place, instead of an entry with the same key. -/
def insertEntry (k : κ) (v : α) : List (κ × α) → List (κ × α)
  | [] => [(k, v)]
  | e :: rest =>
    if k < e.1 then (k, v) :: e :: rest
    else if k = e.1 then (k, v) :: rest
    else e :: insertEntry k v rest

theorem mem_insertEntry {k : κ} {v : α} {e : κ × α} {l : List (κ × α)}
    (h : e ∈ insertEntry k v l) : e = (k, v) ∨ e ∈ l := by
  induction l with
  | nil => simpa [insertEntry] using h
  | cons d rest ih =>
    simp only [insertEntry] at h
    split at h
    · simpa using h
    · split at h
      · rcases List.mem_cons.1 h with h | h
        · exact .inl h
        · exact .inr (List.mem_cons_of_mem _ h)
      · rcases List.mem_cons.1 h with h | h
        · exact .inr (by simp [h])
        · rcases ih h with h | h
          · exact .inl h
          · exact .inr (List.mem_cons_of_mem _ h)

variable [LE κ] [Std.IsLinearOrder κ] [Std.LawfulOrderLT κ]

theorem pairwise_insertEntry (k : κ) (v : α) {l : List (κ × α)}
    (h : l.Pairwise fun a b => a.1 < b.1) :
    (insertEntry k v l).Pairwise fun a b => a.1 < b.1 := by
  induction l with
  | nil => simp [insertEntry]
  | cons e rest ih =>
    have ⟨hhead, htail⟩ := List.pairwise_cons.1 h
    simp only [insertEntry]
    split
    · next hlt =>
      refine List.pairwise_cons.2 ⟨fun d hd => ?_, h⟩
      rcases List.mem_cons.1 hd with rfl | hd
      · exact hlt
      · exact Std.lt_trans hlt (hhead d hd)
    · next hnlt =>
      split
      · next heq => exact List.pairwise_cons.2 ⟨fun d hd => heq ▸ hhead d hd, htail⟩
      · next hne =>
        refine List.pairwise_cons.2 ⟨fun d hd => ?_, ih htail⟩
        rcases mem_insertEntry hd with rfl | hd
        · exact Std.lt_of_le_of_ne (Std.not_lt.1 hnlt) (Ne.symm hne)
        · exact hhead d hd

/-- The map with a value at a key, instead of the value that was there. -/
def insert (m : SortedMap κ α) (k : κ) (v : α) : SortedMap κ α :=
  ⟨insertEntry k v m.entries, pairwise_insertEntry k v m.sorted⟩

/-- The map of a list of entries; of two entries with one key the later one counts. -/
def ofList (entries : List (κ × α)) : SortedMap κ α :=
  entries.foldl (fun m e => m.insert e.1 e.2) empty

/-- The first map, with the entries of the second written over it. -/
def union (m n : SortedMap κ α) : SortedMap κ α :=
  n.entries.foldl (fun m e => m.insert e.1 e.2) m

omit [LE κ] [Std.IsLinearOrder κ] [Std.LawfulOrderLT κ] in
theorem lookup_insertEntry_self (k : κ) (v : α) (l : List (κ × α)) :
    (insertEntry k v l).lookup k = some v := by
  induction l with
  | nil => simp [insertEntry]
  | cons e rest ih =>
    obtain ⟨k₁, v₁⟩ := e
    simp only [insertEntry]
    split
    · simp
    · split
      · simp
      · next hne => simp [List.lookup_cons, beq_false_of_ne hne, ih]

omit [LE κ] [Std.IsLinearOrder κ] [Std.LawfulOrderLT κ] in
theorem lookup_insertEntry_of_ne {k k' : κ} (h : k' ≠ k) (v : α) (l : List (κ × α)) :
    (insertEntry k v l).lookup k' = l.lookup k' := by
  have hk := beq_false_of_ne h
  induction l with
  | nil => simp [insertEntry, List.lookup_cons, hk]
  | cons e rest ih =>
    obtain ⟨k₁, v₁⟩ := e
    simp only [insertEntry]
    split
    · simp [List.lookup_cons, hk]
    · split
      · next heq => simp [List.lookup_cons, hk, ← heq]
      · simp [List.lookup_cons, ih]

@[simp] theorem get?_insert_self (m : SortedMap κ α) (k : κ) (v : α) :
    (m.insert k v).get? k = some v :=
  lookup_insertEntry_self k v m.entries

theorem get?_insert_of_ne (m : SortedMap κ α) {k k' : κ} (h : k' ≠ k) (v : α) :
    (m.insert k v).get? k' = m.get? k' :=
  lookup_insertEntry_of_ne h v m.entries

end SortedMap

/-! ### Sets -/

/-- A finite set, kept in increasing order. -/
abbrev SortedSet (κ : Type) [LT κ] := SortedMap κ Unit

namespace SortedSet

variable {κ : Type} [LT κ] [DecidableEq κ] [DecidableLT κ] [LE κ] [Std.IsLinearOrder κ]
  [Std.LawfulOrderLT κ]

/-- The set with one more member. -/
def add (s : SortedSet κ) (k : κ) : SortedSet κ := s.insert k ()

/-- The set of the members of a list. -/
def ofMembers (members : List κ) : SortedSet κ := members.foldl add ∅

end SortedSet

end ShieldedLedger
