import ShieldedLedger.Proofs.MapLaws
import ShieldedLedger.Proofs.Traversal
import ShieldedLedger.Saved.Snapshot

/-!
# Writers and readers that fit

What is written as JSON is read back as it was. For numbers this holds only in the range that the
reader accepts, so a type whose values hold numbers brings a range with it: what is in range comes
back, and nothing else is ever read. The second half is what makes the range the right one: with it,
the law holds of everything that was once read.

The law is passed on from parts to wholes. Lists, maps and sets need only the law of their
elements. A record is read field by field, and both halves of its law follow the steps of its
reader: forwards, each field is found and read; backwards, each field that was read is in range.

## Main definitions

* `Yields` — what is true of the result of a computation that succeeds
* `RoundTripsOn`, `RoundTrips` — a writer and a reader fit in a range, or for all values
* `IsInt32`, `IsInt64` — the ranges of signed integers

## Main results

* `RoundTripsOn.list`, `RoundTripsOn.nullable`, `RoundTripsOn.map` — the law of composite values
* `RoundTrips.choice` — the law of named alternatives
* `Fields.of_object_bind`, `Fields.get?_bind` — how what was written as an object is read
* `RoundTripsOn.yields_get?`, `yields_require` — what is true of fields that were read
-/

namespace ShieldedLedger

/-! ### Computations that succeed -/

section Success

variable {ε α β γ : Type}

/-- A step that succeeds may be left out. -/
theorem bind_of_eq_ok {x : Except ε α} {f : α → Except ε β} {a : α} (h : x = .ok a) :
    (x >>= f) = f a := by
  rw [h]
  rfl

/-- What is written element by element is read element by element. -/
theorem mapM_map_eq_ok {f : β → Except ε γ} {g : α → β} {h : α → γ} {xs : List α}
    (hf : ∀ x ∈ xs, f (g x) = .ok (h x)) : (xs.map g).mapM f = .ok (xs.map h) := by
  rw [mapM_eq_ok_iff, List.forall₂_map_left_iff, List.forall₂_map_right_iff, List.forall₂_same]
  exact hf

/-- What is true of the result, if there is one. -/
def Yields (x : Except ε α) (P : α → Prop) : Prop := ∀ a, x = .ok a → P a

namespace Yields

variable {P : β → Prop} {Q : α → Prop}

protected theorem pure {b : β} (h : P b) : Yields (pure b : Except ε β) P := by
  rintro _ ⟨⟩
  exact h

protected theorem error (e : ε) : Yields (.error e : Except ε β) P := nofun

protected theorem bind {x : Except ε α} {f : α → Except ε β} (hx : Yields x Q)
    (hf : ∀ a, Q a → Yields (f a) P) : Yields (x >>= f) P := by
  intro b hb
  obtain ⟨a, ha, hb⟩ := bind_eq_ok_iff.mp hb
  exact hf a (hx a ha) b hb

/-- A step of which nothing need be known. -/
theorem skip {x : Except ε α} {f : α → Except ε β} (hf : ∀ a, Yields (f a) P) :
    Yields (x >>= f) P :=
  .bind (Q := fun _ => True) (fun _ _ => trivial) fun a _ => hf a

/-- What is true of a result is true of it where it may be absent. -/
protected theorem some {x : Except ε α} (hx : Yields x Q) :
    Yields (some <$> x) fun o => ∀ a ∈ o, Q a := by
  rw [map_eq_pure_bind]
  refine .bind hx fun a ha => .pure ?_
  rintro _ ⟨⟩
  exact ha

protected theorem mapM {f : α → Except ε β} (hf : ∀ a, Yields (f a) P) (xs : List α) :
    Yields (xs.mapM f) fun ys => ∀ y ∈ ys, P y := by
  intro ys hys
  have hfrom : ∀ y ∈ ys, ∃ x, f x = .ok y :=
    ((List.forall₂_and_left _ _).mp
      ((mapM_eq_ok_iff.mp hys).flip.imp fun _ x hx => ⟨⟨x, hx⟩, hx⟩)).1
  intro y hy
  obtain ⟨x, hx⟩ := hfrom y hy
  exact hf x y hx

end Yields

end Success

namespace Json

/-! ### The law -/

section Law

variable {α κ : Type} {write : α → Json} {read : Reader α} {inRange : α → Prop}

/-- A writer and a reader fit in a range: what is in range is read back, and nothing else is
read. -/
structure RoundTripsOn (inRange : α → Prop) (write : α → Json) (read : Reader α) : Prop where
  /-- What was written is read back. -/
  read_write : ∀ {a : α}, inRange a → read (write a) = .ok a
  /-- What was read is in range. -/
  yields_read : ∀ j : Json, Yields (read j) inRange

/-- A writer and a reader fit for all values. -/
abbrev RoundTrips (write : α → Json) (read : Reader α) : Prop :=
  RoundTripsOn (fun _ => True) write read

theorem RoundTrips.intro (h : ∀ a, read (write a) = .ok a) : RoundTrips write read :=
  ⟨fun _ => h _, fun _ _ _ => trivial⟩

theorem RoundTrips.read_write (h : RoundTrips write read) (a : α) : read (write a) = .ok a :=
  RoundTripsOn.read_write h trivial

/-! ### Single values -/

theorem RoundTrips.bool : RoundTrips .bool Reader.bool := .intro fun _ => rfl

theorem RoundTrips.string : RoundTrips .string Reader.string := .intro fun _ => rfl

theorem RoundTripsOn.intIn (low high : Int) :
    RoundTripsOn (fun z => low ≤ z ∧ z ≤ high) .int (Reader.intIn low high) where
  read_write h := if_pos h
  yields_read j z hz := by
    cases j with
    | int n =>
      rw [Reader.intIn] at hz
      split at hz
      · cases hz
        assumption
      · cases hz
    | _ => cases hz

/-- A signed integer of 32 bits. -/
def IsInt32 (z : Int) : Prop := -2147483648 ≤ z ∧ z ≤ 2147483647

instance (z : Int) : Decidable (IsInt32 z) :=
  inferInstanceAs (Decidable (-2147483648 ≤ z ∧ z ≤ 2147483647))

/-- A signed integer of 64 bits. -/
def IsInt64 (z : Int) : Prop := -9223372036854775808 ≤ z ∧ z ≤ 9223372036854775807

instance (z : Int) : Decidable (IsInt64 z) :=
  inferInstanceAs (Decidable (-9223372036854775808 ≤ z ∧ z ≤ 9223372036854775807))

theorem RoundTripsOn.int32 : RoundTripsOn IsInt32 .int Reader.int32 := .intIn _ _

theorem RoundTripsOn.int64 : RoundTripsOn IsInt64 .int Reader.int64 := .intIn _ _

theorem RoundTripsOn.natBelow (bound : Nat) :
    RoundTripsOn (· < bound) (fun n => .int n) (Reader.natBelow bound) where
  read_write h := if_pos h
  yields_read j n hn := by
    rw [Reader.natBelow.eq_def] at hn
    split at hn
    · split at hn
      · cases hn
        assumption
      · cases hn
    · cases hn

theorem RoundTrips.uint32 : RoundTrips (fun w => .int w.toNat) Reader.uint32 := .intro fun w => by
  rw [Reader.uint32, bind_of_eq_ok ((RoundTripsOn.natBelow _).read_write w.toNat_lt),
    UInt32.ofNat_toNat]
  rfl

theorem RoundTrips.uint8 : RoundTrips (fun w => .int w.toNat) Reader.uint8 := .intro fun w => by
  rw [Reader.uint8, bind_of_eq_ok ((RoundTripsOn.natBelow _).read_write w.toNat_lt),
    UInt8.ofNat_toNat]
  rfl

/-! ### Composite values -/

theorem RoundTripsOn.list (h : RoundTripsOn inRange write read) :
    RoundTripsOn (fun l => ∀ a ∈ l, inRange a) (fun l => .array (l.map write))
      (Reader.list read) where
  read_write {l} hl := by
    have hmap := mapM_map_eq_ok (f := read) (h := id) fun a ha => h.read_write (hl a ha)
    rwa [List.map_id] at hmap
  yields_read j := by
    cases j with
    | array elements => exact .mapM h.yields_read elements
    | _ => exact .error _

theorem RoundTrips.list (h : RoundTrips write read) :
    RoundTrips (fun l => .array (l.map write)) (Reader.list read) :=
  .intro fun _ => RoundTripsOn.read_write (RoundTripsOn.list h) fun _ _ => trivial

theorem Reader.nullable_of_ne_null {j : Json} (h : j ≠ .null) :
    Reader.nullable read j = some <$> read j := by
  rw [Reader.nullable.eq_def]
  split
  · exact absurd rfl h
  · rfl

/-- A value that may be absent, if its writer never gives `null`. -/
theorem RoundTripsOn.nullable (h : RoundTripsOn inRange write read)
    (hnull : ∀ a, write a ≠ .null) :
    RoundTripsOn (fun o => ∀ a ∈ o, inRange a) (optionToJson write) (Reader.nullable read) where
  read_write {o} ho := by
    cases o with
    | none => rfl
    | some a =>
      rw [optionToJson, Reader.nullable_of_ne_null (hnull a), h.read_write (ho a rfl)]
      rfl
  yields_read j := by
    rw [Reader.nullable.eq_def]
    split
    · exact .pure nofun
    · exact .some (h.yields_read j)

section Maps

variable [LT κ] [DecidableEq κ] [DecidableLT κ] [LE κ] [Std.IsLinearOrder κ]
  [Std.LawfulOrderLT κ]

/-- A map, if the names of its members say which keys they stand for. -/
theorem RoundTripsOn.map (h : RoundTripsOn inRange write read) {name : κ → String}
    {key : String → Except ReadError κ} (hkey : ∀ k, key (name k) = .ok k) :
    RoundTripsOn (fun m : SortedMap κ α => ∀ e ∈ m.entries, inRange e.2)
      (fun m => .object (m.entries.map fun e => (name e.1, write e.2)))
      (Reader.map key read) where
  read_write {m} hm := by
    have hmap := mapM_map_eq_ok (h := id)
      (f := fun x : String × Json => do return (← key x.1, ← read x.2))
      (g := fun e : κ × α => (name e.1, write e.2)) fun e (he : e ∈ m.entries) => by
        rw [bind_of_eq_ok (hkey e.1), bind_of_eq_ok (h.read_write (hm e he))]
        rfl
    rw [List.map_id] at hmap
    rw [Reader.map, bind_of_eq_ok hmap, SortedMap.ofList_entries]
    rfl
  yields_read j := by
    cases j with
    | object members =>
      refine .bind (.mapM (P := fun e : κ × α => inRange e.2) (fun x => ?_) members)
        fun entries hentries => .pure fun e he => hentries e (SortedMap.mem_of_mem_ofList he)
      exact .skip fun k => .bind (h.yields_read x.2) fun a ha => .pure ha
    | _ => exact .error _

end Maps

theorem RoundTripsOn.textMap (h : RoundTripsOn inRange write read) :
    RoundTripsOn (fun m => ∀ e ∈ m.entries, inRange e.2) (textMapToJson write)
      (Reader.textMap read) :=
  h.map fun _ => rfl

theorem RoundTrips.textMap (h : RoundTrips write read) :
    RoundTrips (textMapToJson write) (Reader.textMap read) :=
  .intro fun _ => RoundTripsOn.read_write (RoundTripsOn.textMap h) fun _ _ => trivial

theorem RoundTrips.textSet : RoundTrips textSetToJson Reader.textSet := .intro fun s => by
  rw [Reader.textSet, textSetToJson, bind_of_eq_ok (RoundTrips.string.list.read_write s.keys),
    SortedSet.ofMembers_keys]
  rfl

/-! ### Named alternatives -/

/-- A choice, if each alternative is found by its name. -/
theorem RoundTrips.choice {all : List α} {name : α → String}
    (h : ∀ a, Reader.alternative all name (name a) = .ok a) :
    RoundTrips (fun a => .string (name a)) (Reader.choice all name) :=
  .intro h

theorem RoundTrips.plainChoice {all : List α} {name : α → String}
    (h : ∀ a, Reader.alternative all name (name a) = .ok a) :
    RoundTrips (fun a => .string (name a)) (Reader.plainChoice all name) :=
  .intro h

end Law

/-! ### Records -/

section Records

variable {α : Type} {members : List (String × Json)} {names : List String} {name : String}

/-- Names that are all different, as far as they are looked for, and all new, are not repeated. -/
theorem firstRepeated?_eq_none {seen : List String}
    (hnodup : ((members.map Prod.fst).filter names.contains).Nodup)
    (hseen : ∀ n ∈ seen, n ∉ members.map Prod.fst) : firstRepeated? names seen members = none := by
  induction members generalizing seen with
  | nil => rfl
  | cons m members ih =>
    have hold : ∀ n ∈ seen, n ∉ members.map Prod.fst := fun n hn hmem =>
      hseen n hn (List.mem_cons_of_mem _ hmem)
    rw [List.map_cons] at hnodup
    rw [firstRepeated?]
    cases hname : names.contains m.1 with
    | false =>
      rw [List.filter_cons_of_neg (ne_true_of_eq_false hname)] at hnodup
      exact ih hnodup hold
    | true =>
      rw [List.filter_cons_of_pos hname] at hnodup
      obtain ⟨hhead, hrest⟩ := List.nodup_cons.mp hnodup
      rw [Bool.not_true, if_neg Bool.false_ne_true]
      split
      · next hcontains =>
        exact absurd List.mem_cons_self (hseen _ (List.contains_iff_mem.mp hcontains))
      · refine ih hrest fun n hn => ?_
        rcases List.mem_cons.mp hn with rfl | hn
        · exact fun hmem => hhead (List.mem_filter.mpr ⟨hmem, hname⟩)
        · exact hold n hn

namespace Fields

/-- The fields of an object with such members. -/
def ofMembers (members : List (String × Json)) : Fields where
  value? := (members.lookup ·)
  absent := .missingField

/-- An object that gives no field of a record twice has fields, whatever else it gives. -/
theorem of_known_members_bind {f : Fields → Except ReadError α} {x : Except ReadError α}
    (hnodup : ((members.map Prod.fst).filter names.contains).Nodup)
    (hrest : f (ofMembers members) = x) : (Fields.of names (.object members) >>= f) = x := by
  rw [Fields.of, firstRepeated?_eq_none hnodup fun n hn => absurd hn List.not_mem_nil]
  exact hrest

/-- So has an object whose names are all different. -/
theorem of_members_bind {f : Fields → Except ReadError α} {x : Except ReadError α}
    (hnodup : (members.map Prod.fst).Nodup) (hrest : f (ofMembers members) = x) :
    (Fields.of names (.object members) >>= f) = x :=
  of_known_members_bind (hnodup.filter _) hrest

/-- And so has an object that gives the fields of a record and no others. -/
theorem of_object_bind {f : Fields → Except ReadError α} {x : Except ReadError α}
    (hnodup : names.Nodup) (hnames : members.map Prod.fst = names)
    (hrest : f (ofMembers members) = x) : (Fields.of names (.object members) >>= f) = x :=
  of_members_bind (hnames ▸ hnodup) hrest

/-- A field that is there is read. -/
theorem get?_bind {β : Type} {fs : Fields} {j : Json} {a : α} {read : Reader α}
    {f : Option α → Except ReadError β} {x : Except ReadError β}
    (hvalue : fs.value? name = some j) (hread : read j = .ok a) (hrest : f (some a) = x) :
    (fs.get? name read >>= f) = x := by
  rw [get?, hvalue, bind_of_eq_ok (congrArg (some <$> ·) hread)]
  exact hrest

/-- A field that was read is not missing. -/
theorem require_bind {β : Type} {fs : Fields} {a : α} {f : α → Except ReadError β}
    {x : Except ReadError β} (hrest : f a = x) : (fs.require name (some a) >>= f) = x :=
  hrest

/-- What is true of a field that was read. -/
theorem yields_get? {fs : Fields} {read : Reader α} {P : α → Prop}
    (h : ∀ j, Yields (read j) P) : Yields (fs.get? name read) fun o => ∀ a ∈ o, P a := by
  rw [get?]
  split
  · exact .some (h _)
  · exact .pure nofun

theorem yields_require {fs : Fields} {o : Option α} {P : α → Prop} (h : ∀ a ∈ o, P a) :
    Yields (fs.require name o) P := by
  intro a ha
  cases o with
  | none => cases ha
  | some _ =>
    cases ha
    exact h a rfl

end Fields

/-- A field with a default is in range if its default is. -/
theorem getD_of_forall_mem {o : Option α} {P : α → Prop} {d : α} (h : ∀ a ∈ o, P a) (hd : P d) :
    P (o.getD d) := by
  cases o with
  | none => exact hd
  | some a => exact h a rfl

end Records

end Json

end ShieldedLedger
