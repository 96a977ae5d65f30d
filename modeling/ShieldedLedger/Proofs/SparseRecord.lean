import Mathlib.Data.List.Perm.Basic
import ShieldedLedger.Proofs.RoundTrip

/-!
# Sparse forms of written values

A saved file need not look as it was written. Members of a record may be left out where they hold
what a reader takes anyway, they may stand in another order, and members of other names may stand
among them, at every depth at once. This file says what such edits are and how a reader copes with
them, for one record at a time.

## Which edits

An edit is a relation between two JSON values, built along the type that was written. It is not a
relation between any values: whether a member may be left out, and what it must hold then, depends
on the record it belongs to, and an object that stands for a map is no record, so its members stay
in place and only their values are edited.

## What carries the proof

Each edit of a record leaves for each field one of two things: one member, whose value is an edit of
what was written, or none, and then the written value is the default. A reader that goes by names
sees nothing else of the record, so every record type is read field by field like a full one, with
the default in the place of what is absent.

## Main definitions

* `Json.Edit`, with `same`, `elements`, `values`, `nullable`, `reordered` and `record`
* `Json.FieldIn` — what an edited record gives for one field
* `Json.ReadsEdited` — a reader reads what was written through an edit

## Main results

* `Json.Edit.record_bind` — an edited record has fields, and each is given or at its default
* `Json.ReadsEdited.required`, `Json.ReadsEdited.optional` — how such a field is read
* `Json.ReadsEdited.list`, `ReadsEdited.map`, `ReadsEdited.nullable` — the law of composite values
-/

namespace ShieldedLedger.Json

/-! ### Edits -/

/-- An edit: what may become of a value that was written. -/
abbrev Edit := Json → Json → Prop

/-- A field of a record. -/
structure Field where
  /-- Its name. -/
  name : String
  /-- What may become of its value. -/
  edit : Edit
  /-- The value that a reader takes if the field is left out, if it may be. -/
  default? : Option Json

/-- A field that may not be left out. -/
def Field.required (name : String) (edit : Edit) : Field := ⟨name, edit, none⟩

/-- A field that may be left out if it has some value. -/
def Field.optional (name : String) (edit : Edit) (default : Json) : Field :=
  ⟨name, edit, some default⟩

/-- Members of a record are kept, with their values edited, or left out, where that is possible. -/
inductive Thins : List Field → List (String × Json) → List (String × Json) → Prop
  | nil : Thins [] [] []
  | keep {f : Field} {fs : List Field} {j j' : Json} {members kept : List (String × Json)} :
      f.edit j j' → Thins fs members kept →
        Thins (f :: fs) ((f.name, j) :: members) ((f.name, j') :: kept)
  | drop {f : Field} {fs : List Field} {j : Json} {members kept : List (String × Json)} :
      f.default? = some j → Thins fs members kept → Thins (f :: fs) ((f.name, j) :: members) kept

/-- The value without the members of some names, if it is an object. -/
def without (drop : String → Bool) : Json → Json
  | .object members => .object (members.filter fun m => !drop m.1)
  | j => j

namespace Edit

/-- Nothing is changed. -/
def same : Edit := Eq

/-- The elements of a list are edited. -/
inductive elements (e : Edit) : Json → Json → Prop
  | mk {xs ys : List Json} : List.Forall₂ e xs ys → elements e (.array xs) (.array ys)

/-- The values of a map are edited. -/
inductive values (e : Edit) : Json → Json → Prop
  | mk {ms ms' : List (String × Json)} :
      List.Forall₂ (fun m m' => m'.1 = m.1 ∧ e m.2 m'.2) ms ms' →
        values e (.object ms) (.object ms')

/-- A value that may be absent is edited if it is there. -/
inductive nullable (e : Edit) : Json → Json → Prop
  | null : nullable e .null .null
  | value {j j' : Json} : e j j' → nullable e j j'

/-- The members of an object are put in another order. -/
inductive reordered : Json → Json → Prop
  | mk {ms ms' : List (String × Json)} : ms'.Perm ms → reordered (.object ms) (.object ms')

/-- Members of a record are edited or left out, members of other names are added, and all of them
are put in any order. -/
inductive record (fields : List Field) : Json → Json → Prop
  | mk {ms kept others ms' : List (String × Json)} : Thins fields ms kept →
      (∀ m ∈ others, m.1 ∉ fields.map Field.name) → ms'.Perm (kept ++ others) →
        record fields (.object ms) (.object ms')

end Edit

/-! ### Fields of an edited record -/

/-- What is found under the name of a field: an edit of its value, or nothing and the value is the
default. -/
inductive FieldIn (members : List (String × Json)) (f : Field) (j : Json) : Prop
  | found {j' : Json} : members.lookup f.name = some j' → f.edit j j' → FieldIn members f j
  | absent : members.lookup f.name = none → f.default? = some j → FieldIn members f j

/-- That is found for each of some fields. -/
def AllIn (members : List (String × Json)) : List Field → List (String × Json) → Prop
  | f :: fs, (_, j) :: ms => FieldIn members f j ∧ AllIn members fs ms
  | _, _ => True

section Lookup

variable {members : List (String × Json)} {name : String} {j : Json}

/-- The only member of a name is found. -/
theorem lookup_eq_some_of_unique (hmem : (name, j) ∈ members)
    (hunique : ∀ i, (name, i) ∈ members → i = j) : members.lookup name = some j := by
  have hsome : (members.lookup name).isSome := by
    rw [List.lookup_isSome_iff]
    exact ⟨_, hmem, beq_self_eq_true name⟩
  obtain ⟨i, hi⟩ := Option.isSome_iff_exists.mp hsome
  obtain ⟨before, after, heq, -⟩ := List.lookup_eq_some_iff.mp hi
  rw [hi, hunique i (by simp [heq])]

theorem lookup_eq_none_of_notMem (h : ∀ i, (name, i) ∉ members) : members.lookup name = none := by
  rw [List.lookup_eq_none_iff]
  intro m hm
  rw [bne_iff_ne]
  rintro rfl
  exact h m.2 hm

end Lookup

/-- Leaving out a field is an edit of a record that has the default there. -/
theorem Thins.filter_cons {fs : List Field} {ms ms' : List (String × Json)} {name : String}
    {i j d : Json} {drop : String → Bool} (hi : i = if drop name then d else j)
    (h : Thins fs ms (ms'.filter fun m => !drop m.1)) :
    Thins (.optional name .same d :: fs) ((name, i) :: ms)
      (((name, j) :: ms').filter fun m => !drop m.1) := by
  subst hi
  cases hdrop : drop name with
  | false =>
    rw [List.filter_cons_of_pos (by simp [hdrop])]
    exact .keep rfl h
  | true =>
    rw [List.filter_cons_of_neg (by simp [hdrop])]
    exact .drop rfl h

theorem Thins.names_sublist {fs : List Field} {ms kept : List (String × Json)}
    (h : Thins fs ms kept) : (kept.map Prod.fst).Sublist (fs.map Field.name) := by
  induction h with
  | nil => exact .slnil
  | keep _ _ ih => exact ih.cons_cons _
  | drop _ _ ih => exact ih.cons _

/-- The induction is on the edit; `members` is fixed, and what it gives under the names of the
fields is what was kept of them. -/
theorem Thins.allIn {fs : List Field} {ms kept members : List (String × Json)}
    (h : Thins fs ms kept) (hnodup : (fs.map Field.name).Nodup)
    (hmembers : ∀ f ∈ fs, ∀ j, (f.name, j) ∈ members ↔ (f.name, j) ∈ kept) :
    AllIn members fs ms := by
  induction h with
  | nil => trivial
  | @keep f fs j j' ms kept hedit hrest ih =>
    obtain ⟨hhead, htail⟩ := List.nodup_cons.mp hnodup
    obtain ⟨hf, hfs⟩ := List.forall_mem_cons.mp hmembers
    have hnot : ∀ i, (f.name, i) ∉ kept := fun i hi =>
      hhead (hrest.names_sublist.subset (List.mem_map_of_mem hi))
    refine ⟨.found (lookup_eq_some_of_unique ((hf j').mpr List.mem_cons_self) fun i hi => ?_) hedit,
      ih htail fun g hg i => ?_⟩
    · rcases List.mem_cons.mp ((hf i).mp hi) with heq | hmem
      · exact (Prod.mk.inj heq).2
      · exact absurd hmem (hnot i)
    · have hne : g.name ≠ f.name := fun heq => hhead (heq ▸ List.mem_map_of_mem hg)
      rw [hfs g hg i, List.mem_cons]
      exact or_iff_right fun heq => hne (Prod.mk.inj heq).1
  | @drop f fs j ms kept hdefault hrest ih =>
    obtain ⟨hhead, htail⟩ := List.nodup_cons.mp hnodup
    obtain ⟨hf, hfs⟩ := List.forall_mem_cons.mp hmembers
    refine ⟨.absent (lookup_eq_none_of_notMem fun i hi => ?_) hdefault, ih htail hfs⟩
    exact hhead (hrest.names_sublist.subset (List.mem_map_of_mem ((hf i).mp hi)))

/-- **An edited record has fields, each of which is given or at its default.** -/
theorem Edit.record_bind {β : Type} {fields : List Field} {names : List String}
    {ms : List (String × Json)} {j : Json} {k : Fields → Except ReadError β}
    {x : Except ReadError β} (hedit : Edit.record fields (.object ms) j)
    (hnames : fields.map Field.name = names) (hnodup : names.Nodup)
    (hrest : ∀ members, AllIn members fields ms → k (Fields.ofMembers members) = x) :
    (Fields.of names j >>= k) = x := by
  subst hnames
  obtain @⟨ms, kept, others, ms', hthins, hothers, hperm⟩ := hedit
  have hunknown : (others.map Prod.fst).filter (fields.map Field.name).contains = [] := by
    rw [List.filter_eq_nil_iff]
    intro n hn
    obtain ⟨m, hm, rfl⟩ := List.mem_map.mp hn
    exact fun hcontains => hothers m hm (List.contains_iff_mem.mp hcontains)
  have hknown : ((ms'.map Prod.fst).filter (fields.map Field.name).contains).Nodup := by
    rw [((hperm.map Prod.fst).filter _).nodup_iff, List.map_append, List.filter_append, hunknown,
      List.append_nil]
    exact (hthins.names_sublist.nodup hnodup).filter _
  refine Fields.of_known_members_bind hknown (hrest ms' (hthins.allIn hnodup fun f hf i => ?_))
  rw [hperm.mem_iff, List.mem_append]
  exact or_iff_left fun hmem => hothers _ hmem (List.mem_map_of_mem hf)

/-- A record is never `null`, before or after an edit. -/
theorem Edit.ne_null_of_record {fields : List Field} {j j' : Json} (h : Edit.record fields j j') :
    j ≠ .null ∧ j' ≠ .null := by
  cases h
  exact ⟨nofun, nofun⟩

/-! ### Reading through an edit -/

section Law

variable {α β κ : Type} {write : α → Json} {read : Reader α} {inRange : α → Prop} {edit : Edit}

theorem RoundTripsOn.eq_of_write_eq (h : RoundTripsOn inRange write read) {a b : α}
    (ha : inRange a) (hb : inRange b) (heq : write a = write b) : a = b :=
  Except.ok.inj <| (h.read_write ha).symm.trans <| (congrArg read heq).trans (h.read_write hb)

/-- A writer and a reader fit in a range, and the reader also copes with edits of what was
written. -/
structure ReadsEdited (inRange : α → Prop) (edit : Edit) (write : α → Json) (read : Reader α) :
    Prop extends RoundTripsOn inRange write read where
  /-- What was written and then edited is read back. -/
  read_edit : ∀ {a : α} {j : Json}, inRange a → edit (write a) j → read j = .ok a

theorem ReadsEdited.same (h : RoundTripsOn inRange write read) :
    ReadsEdited inRange .same write read where
  toRoundTripsOn := h
  read_edit ha hedit := hedit ▸ h.read_write ha

/-- A field that may not be left out, nor changed, is found as it was written. -/
theorem FieldIn.lookup_eq {members : List (String × Json)} {name : String} {j : Json}
    (hf : FieldIn members (.required name .same) j) : members.lookup name = some j := by
  cases hf with
  | found hlookup hsame => exact hsame ▸ hlookup
  | absent _ hdefault => cases hdefault

section Fields

variable {members : List (String × Json)} {name : String} {a : α}
  {k : Option α → Except ReadError β} {x : Except ReadError β}

/-- A field that may not be left out is read. -/
theorem ReadsEdited.required (h : ReadsEdited inRange edit write read) (ha : inRange a)
    (hf : FieldIn members (.required name edit) (write a)) (hrest : k (some a) = x) :
    ((Fields.ofMembers members).get? name read >>= k) = x := by
  cases hf with
  | found hlookup hedit => exact Fields.get?_bind hlookup (h.read_edit ha hedit) hrest
  | absent _ hdefault => cases hdefault

/-- A field that may be left out is read, or it has its default. -/
theorem ReadsEdited.optional (h : ReadsEdited inRange edit write read) (d : α) (ha : inRange a)
    (hd : inRange d) (hf : FieldIn members (.optional name edit (write d)) (write a))
    (hrest : ∀ o : Option α, o.getD d = a → k o = x) :
    ((Fields.ofMembers members).get? name read >>= k) = x := by
  cases hf with
  | found hlookup hedit => exact Fields.get?_bind hlookup (h.read_edit ha hedit) (hrest _ rfl)
  | absent hlookup hdefault =>
    rw [Fields.get?, show (Fields.ofMembers members).value? name = none from hlookup]
    exact hrest none (h.eq_of_write_eq hd ha (Option.some.inj hdefault))

end Fields

/-! ### Composite values -/

namespace ReadsEdited

theorem list (h : ReadsEdited inRange edit write read) :
    ReadsEdited (fun l => ∀ a ∈ l, inRange a) (.elements edit) (fun l => .array (l.map write))
      (Reader.list read) where
  toRoundTripsOn := RoundTripsOn.list h.toRoundTripsOn
  read_edit {l j} hl hedit := by
    obtain ⟨hys⟩ := hedit
    rw [List.forall₂_map_left_iff] at hys
    exact mapM_eq_ok_iff.mpr
      (((List.forall₂_and_left _ _).mpr ⟨hl, hys⟩).flip.imp fun _ _ hy => h.read_edit hy.1 hy.2)

/-- A value that may be absent, if neither its writer nor an edit ever gives `null`. -/
theorem nullable (h : ReadsEdited inRange edit write read) (hnull : ∀ a, write a ≠ .null)
    (hedit : ∀ {j j'}, edit j j' → j ≠ .null ∧ j' ≠ .null) :
    ReadsEdited (fun o => ∀ a ∈ o, inRange a) (.nullable edit) (optionToJson write)
      (Reader.nullable read) where
  toRoundTripsOn := RoundTripsOn.nullable h.toRoundTripsOn hnull
  read_edit {o j} ho he := by
    cases o with
    | none =>
      change Edit.nullable edit .null j at he
      cases he with
      | null => rfl
      | value he => exact absurd rfl (hedit he).1
    | some a =>
      change Edit.nullable edit (write a) j at he
      generalize hwrite : write a = i at he
      cases he with
      | null => exact absurd hwrite (hnull a)
      | value he =>
        subst hwrite
        rw [Reader.nullable_of_ne_null (hedit he).2, h.read_edit (ho a rfl) he]
        rfl

section Maps

variable [LT κ] [DecidableEq κ] [DecidableLT κ] [LE κ] [Std.IsLinearOrder κ]
  [Std.LawfulOrderLT κ]

theorem map (h : ReadsEdited inRange edit write read) {name : κ → String}
    {key : String → Except ReadError κ} (hkey : ∀ k, key (name k) = .ok k) :
    ReadsEdited (fun m : SortedMap κ α => ∀ e ∈ m.entries, inRange e.2) (.values edit)
      (fun m => .object (m.entries.map fun e => (name e.1, write e.2))) (Reader.map key read) where
  toRoundTripsOn := h.toRoundTripsOn.map hkey
  read_edit {m j} hm hedit := by
    obtain @⟨_, ms', hms⟩ := hedit
    rw [List.forall₂_map_left_iff] at hms
    have hentries : (ms'.mapM fun x : String × Json => do return (← key x.1, ← read x.2)) =
        .ok m.entries := by
      refine mapM_eq_ok_iff.mpr
        (((List.forall₂_and_left _ _).mpr ⟨hm, hms⟩).flip.imp fun x e he => ?_)
      obtain ⟨he, hname, hvalue⟩ := he
      rw [hname, bind_of_eq_ok (hkey e.1), bind_of_eq_ok (h.read_edit he hvalue)]
      rfl
    rw [Reader.map, bind_of_eq_ok hentries, SortedMap.ofList_entries]
    rfl

end Maps

end ReadsEdited

end Law

end ShieldedLedger.Json
