import Mathlib.Data.List.TakeWhile
import Mathlib.Tactic.FinCases
import ShieldedLedger.Proofs.JsonTokens

/-!
# JSON text that was written is read back

Both printers write texts of one grammar, in which blanks may stand where a printer puts them, and
every text of the grammar is read as the value it spells. The grammar is defined by recursion on how
deep containers may be nested, which is also what the induction is on; within one container it is an
induction on the list of its elements.

The reader is bounded by the length of the text. Each value and each step from one element to the
next takes a call, and each of them has a character of its own in the text, so twice its length is
enough.

## Main definitions

* `Separated`, `Enclosed`, `Spells` — the grammar
* `Plain` — the values that lose nothing when they are written
* `Reads` — a text is read as a value, whatever follows it

## Main results

* `elements?_of_separated`, `members?_of_separated` — lists of elements and of members are read
* `reads_of_spells` — so is every text of the grammar
* `parse?_compact`, `parse?_pretty` — what was written is read back
-/

namespace ShieldedLedger.Json

/-! ### The grammar -/

/-- Only blanks. -/
def Blank (ws : List Char) : Prop := ∀ c ∈ ws, isBlank c

/-- The texts of some things, with commas between them and blanks after each comma. -/
inductive Separated {α : Type} (R : α → List Char → Prop) : List α → List Char → Prop where
  /-- The text of the last one. -/
  | single {a : α} {cs : List Char} (h : R a cs) : Separated R [a] cs
  /-- The text of another one. -/
  | cons {a : α} {as : List α} {cs ws tail : List Char} (h : R a cs) (hws : Blank ws)
    (htail : Separated R as tail) : Separated R (a :: as) (cs ++ ',' :: (ws ++ tail))

/-- The texts of some things between two brackets. -/
inductive Enclosed {α : Type} (R : α → List Char → Prop) (opening closing : Char) :
    List α → List Char → Prop where
  /-- Nothing stands between the brackets. -/
  | empty : Enclosed R opening closing [] [opening, closing]
  /-- Something does, and blanks around it. -/
  | full {as : List α} {inner ws ws' : List Char} (hws : Blank ws) (h : Separated R as inner)
    (hws' : Blank ws') :
    Enclosed R opening closing as (opening :: (ws ++ (inner ++ (ws' ++ [closing]))))

/-- The text of a string. -/
def quoted (s : String) : List Char := '"' :: (s.toList.flatMap escapeChar ++ ['"'])

/-- The text of a member. -/
def SpellsMember (R : Json → List Char → Prop) (m : String × Json) (cs : List Char) : Prop :=
  ∃ ws body, Blank ws ∧ R m.2 body ∧ cs = quoted m.1 ++ ':' :: (ws ++ body)

/-- The texts of a value, in which containers are nested so deep at most. -/
def Spells : Nat → Json → List Char → Prop
  | _, null, cs => cs = ['n', 'u', 'l', 'l']
  | _, bool true, cs => cs = ['t', 'r', 'u', 'e']
  | _, bool false, cs => cs = ['f', 'a', 'l', 's', 'e']
  | _, int z, cs => z.natAbs < UInt64.size ∧ cs = (Decimal.ofInt z).toList
  | _, string s, cs => cs = quoted s
  | room + 1, array elements, cs => Enclosed (Spells room) '[' ']' elements cs
  | room + 1, object members, cs => Enclosed (SpellsMember (Spells room)) '\x7b' '\x7d' members cs
  | _, _, _ => False

/-! ### Blanks -/

theorem blank_nil : Blank [] := nofun

theorem skipBlanks_append {ws : List Char} (hws : Blank ws) {c : Char} (hc : isBlank c = false)
    (cs : List Char) : skipBlanks (ws ++ c :: cs) = c :: cs := by
  rw [skipBlanks, List.dropWhile_append_of_pos hws, List.dropWhile_cons_of_neg (by simp [hc])]

theorem skipBlanks_cons {c : Char} (hc : isBlank c = false) (cs : List Char) :
    skipBlanks (c :: cs) = c :: cs :=
  skipBlanks_append blank_nil hc cs

/-- A comma or a closing bracket does not continue a number. -/
theorem ends_cons {c : Char} (hc : c ∈ [',', ']', '\x7d']) (cs : List Char) : Ends (c :: cs) := by
  rintro _ ⟨⟩
  fin_cases hc <;> decide

theorem cases_of_isBlank {c : Char} (hc : isBlank c) : c ∈ [' ', '\t', '\n', '\r'] := by
  simpa [isBlank, or_assoc] using hc

/-- Nor do blanks. -/
theorem ends_append {ws : List Char} (hws : Blank ws) {rest : List Char} (hrest : Ends rest) :
    Ends (ws ++ rest) := by
  cases ws with
  | nil => exact hrest
  | cons d ws =>
    rintro _ ⟨⟩
    have hd := cases_of_isBlank (hws d List.mem_cons_self)
    fin_cases hd <;> decide

theorem ends_nil : Ends [] := by simp [Ends]

/-! ### Reading -/

/-- The text is read as the value, whatever follows it, and starts like a value. -/
structure Reads (level : Nat) (j : Json) (cs : List Char) : Prop where
  /-- It starts with neither a blank nor the end of a list. -/
  exists_cons : ∃ c tail, cs = c :: tail ∧ isBlank c = false ∧ c ≠ ']'
  /-- Its value is read, and nothing of what follows. -/
  value?_eq : ∀ {fuel : Nat} {ws rest : List Char}, 2 * cs.length ≤ fuel → Blank ws → Ends rest →
    value? fuel level (ws ++ (cs ++ rest)) = some (j, rest)

section Lists

variable {R : Json → List Char → Prop} {level : Nat}

/-- The elements of an array are read one after the other. -/
theorem elements?_of_separated (hR : ∀ j cs, R j cs → Reads (level + 1) j cs) {js : List Json}
    {inner : List Char} (h : Separated R js inner) (before : List Json) {ws ws' : List Char}
    (hws : Blank ws) (hws' : Blank ws') (fuel : Nat) (hfuel : 2 * inner.length < fuel)
    (rest : List Char) :
    elements? fuel level before (ws ++ (inner ++ (ws' ++ ']' :: rest))) =
      some (before.reverse ++ js, rest) := by
  induction h generalizing fuel before ws with
  | single h =>
    cases fuel with
    | zero => exact absurd hfuel (Nat.not_lt_zero _)
    | succ fuel =>
      rw [elements?, (hR _ _ h).value?_eq (by omega) hws (ends_append hws' (ends_cons (by simp) _))]
      simp only [skipBlanks_append hws' (c := ']') rfl, List.reverse_cons]
  | cons h hws₁ htail ih =>
    cases fuel with
    | zero => exact absurd hfuel (Nat.not_lt_zero _)
    | succ fuel =>
      simp only [List.length_append, List.length_cons] at hfuel
      rw [List.append_assoc, List.cons_append, elements?,
        (hR _ _ h).value?_eq (by omega) hws (ends_cons (by simp) _)]
      simp only [skipBlanks_cons (c := ',') rfl, List.append_assoc]
      rw [ih _ hws₁ _ (by omega)]
      simp

/-- The name of a member is read, then its value, and then more if a comma follows; after the last
member, the bracket closes. -/
theorem members?_quoted {fuel : Nat} {ws cs rest : List Char} {j : Json} (hws : Blank ws)
    (name : String) (hvalue : value? fuel (level + 1) cs = some (j, rest))
    (before : List (Option String × Json)) :
    (∀ rest', skipBlanks rest = ',' :: rest' →
      members? (fuel + 1) level before (ws ++ (quoted name ++ ':' :: cs)) =
        members? fuel level ((some name, j) :: before) rest') ∧
    (∀ rest', skipBlanks rest = '\x7d' :: rest' →
      members? (fuel + 1) level before (ws ++ (quoted name ++ ':' :: cs)) =
        some (((some name, j) :: before).reverse, rest')) := by
  rw [members?, quoted, List.cons_append, List.append_assoc, List.singleton_append,
    skipBlanks_append hws rfl]
  simp only [stringBody_escaped, skipBlanks_cons (c := ':') rfl, hvalue]
  constructor
  · intro rest' hrest
    simp only [hrest]
  · intro rest' hrest
    simp only [hrest]

/-- The members of an object are read one after the other. -/
theorem members?_of_separated (hR : ∀ j cs, R j cs → Reads (level + 1) j cs)
    {ms : List (String × Json)} {inner : List Char} (h : Separated (SpellsMember R) ms inner)
    (before : List (Option String × Json)) {ws ws' : List Char} (hws : Blank ws)
    (hws' : Blank ws') (fuel : Nat) (hfuel : 2 * inner.length < fuel) (rest : List Char) :
    members? fuel level before (ws ++ (inner ++ (ws' ++ '\x7d' :: rest))) =
      some (before.reverse ++ ms.map (fun m => (some m.1, m.2)), rest) := by
  induction h generalizing fuel before ws with
  | single h =>
    obtain ⟨ws₁, body, hws₁, hbody, rfl⟩ := h
    cases fuel with
    | zero => exact absurd hfuel (Nat.not_lt_zero _)
    | succ fuel =>
      simp only [List.length_append, List.length_cons] at hfuel
      have hends : Ends (ws' ++ '\x7d' :: rest) := ends_append hws' (ends_cons (by simp) _)
      have hvalue := (hR _ _ hbody).value?_eq (show 2 * body.length ≤ fuel by omega) hws₁ hends
      rw [List.append_assoc, List.cons_append, List.append_assoc,
        (members?_quoted hws _ hvalue before).2 _ (skipBlanks_append hws' rfl _)]
      simp
  | cons h hws₂ htail ih =>
    obtain ⟨ws₁, body, hws₁, hbody, rfl⟩ := h
    cases fuel with
    | zero => exact absurd hfuel (Nat.not_lt_zero _)
    | succ fuel =>
      simp only [List.length_append, List.length_cons] at hfuel
      simp only [List.append_assoc, List.cons_append]
      have hends (cs : List Char) : Ends (',' :: cs) := ends_cons (by simp) cs
      have hvalue (cs : List Char) :=
        (hR _ _ hbody).value?_eq (show 2 * body.length ≤ fuel by omega) hws₁ (hends cs)
      rw [(members?_quoted hws _ (hvalue _) before).1 _ (skipBlanks_cons rfl _),
        ih _ hws₂ _ (by omega)]
      simp

end Lists

/-! ### Values -/

section Values

variable {fuel level : Nat} {ws : List Char}

theorem isBlank_of_number {c : Char} (hc : c = '-' ∨ c.isDigit) : isBlank c = false := by
  refine Bool.eq_false_iff.mpr fun h => ?_
  have hmem := cases_of_isBlank h
  fin_cases hmem <;> exact absurd hc (by decide)

/-- Blanks before a value are skipped. -/
theorem value?_append (hws : Blank ws) {c : Char} (hc : isBlank c = false) (cs : List Char) :
    value? (fuel + 1) level (ws ++ c :: cs) = value? (fuel + 1) level (c :: cs) := by
  rw [value?, value?, skipBlanks_append hws hc, skipBlanks_cons hc]

/-- A minus sign or a digit starts a number. -/
theorem value?_number {c : Char} (hc : c = '-' ∨ c.isDigit) (cs : List Char) :
    value? (fuel + 1) level (c :: cs) = number? (c :: cs) := by
  rw [value?, skipBlanks_cons (isBlank_of_number hc)]
  split <;> simp_all

/-- A string is read up to its closing quote. -/
theorem value?_quoted (s : String) (rest : List Char) :
    value? (fuel + 1) level (quoted s ++ rest) = some (string s, rest) := by
  have hread (cs : List Char) : value? (fuel + 1) level ('"' :: cs) =
      (stringBody cs).map fun p => ((p.1.map string).getD unreadable, p.2) := rfl
  rw [quoted, List.cons_append, List.append_assoc, List.singleton_append, hread,
    stringBody_escaped]
  rfl

variable {inner cs rest : List Char}

/-- An array with elements is read element by element. -/
theorem value?_array (hws : Blank ws)
    (hinner : ∃ c tail, inner = c :: tail ∧ isBlank c = false ∧ c ≠ ']') {js : List Json}
    (h : elements? fuel level [] (inner ++ cs) = some (js, rest)) :
    value? (fuel + 1) level ('[' :: (ws ++ (inner ++ cs))) =
      some (nested level (array js), rest) := by
  obtain ⟨c, tail, rfl, hblank, hc⟩ := hinner
  rw [List.cons_append] at h ⊢
  rw [value?, skipBlanks_cons rfl]
  simp only [skipBlanks_append hws hblank]
  split <;> simp_all

/-- An object with members is read member by member. -/
theorem value?_object (hws : Blank ws) (hinner : ∃ c tail, inner = c :: tail ∧ c = '"')
    {ms : List (Option String × Json)}
    (h : members? fuel level [] (inner ++ cs) = some (ms, rest)) :
    value? (fuel + 1) level ('\x7b' :: (ws ++ (inner ++ cs))) =
      some (nested level (objectOf ms), rest) := by
  obtain ⟨_, tail, rfl, rfl⟩ := hinner
  rw [List.cons_append] at h ⊢
  rw [value?, skipBlanks_cons rfl]
  simp only [skipBlanks_append hws (c := '"') rfl]
  exact congrArg (Option.map fun p => (nested level (objectOf p.1), p.2)) h

end Values

theorem objectOf_map (ms : List (String × Json)) :
    objectOf (ms.map fun m => (some m.1, m.2)) = object ms := by
  have hnames : (ms.map fun m => (some m.1, m.2)).mapM
      (fun m : Option String × Json => m.1.map (·, m.2)) = some ms := by
    induction ms with
    | nil => rfl
    | cons m ms ih => simp [ih]
  rw [objectOf, hnames]

theorem nested_of_lt {level : Nat} (h : level < maxNesting) (j : Json) : nested level j = j :=
  if_pos h

section Reads

variable {level : Nat}

/-- A text has a character, so there is a call to read it. -/
theorem Reads.intro {j : Json} {cs : List Char}
    (hcons : ∃ c tail, cs = c :: tail ∧ isBlank c = false ∧ c ≠ ']')
    (h : ∀ {fuel : Nat} {ws rest : List Char}, 2 * cs.length ≤ fuel + 1 → Blank ws → Ends rest →
      value? (fuel + 1) level (ws ++ (cs ++ rest)) = some (j, rest)) : Reads level j cs := by
  refine ⟨hcons, fun {fuel _ _} hfuel => ?_⟩
  cases fuel with
  | zero =>
    obtain ⟨_, _, rfl, -⟩ := hcons
    simp at hfuel
  | succ fuel => exact h hfuel

theorem reads_null : Reads level null ['n', 'u', 'l', 'l'] :=
  .intro ⟨_, _, rfl, rfl, by decide⟩ fun _ hws _ => value?_append hws rfl _

theorem reads_true : Reads level (bool true) ['t', 'r', 'u', 'e'] :=
  .intro ⟨_, _, rfl, rfl, by decide⟩ fun _ hws _ => value?_append hws rfl _

theorem reads_false : Reads level (bool false) ['f', 'a', 'l', 's', 'e'] :=
  .intro ⟨_, _, rfl, rfl, by decide⟩ fun _ hws _ => value?_append hws rfl _

theorem reads_string (s : String) : Reads level (string s) (quoted s) :=
  .intro ⟨_, _, rfl, rfl, by decide⟩ fun _ hws _ =>
    (value?_append hws rfl _).trans (value?_quoted s _)

theorem reads_int {z : Int} (hz : z.natAbs < UInt64.size) :
    Reads level (int z) (Decimal.ofInt z).toList := by
  have hcons : ∃ c tail, (Decimal.ofInt z).toList = c :: tail ∧ (c = '-' ∨ c.isDigit) := by
    rw [toList_ofInt]
    split
    · exact ⟨_, _, rfl, .inl rfl⟩
    · obtain ⟨c, tail, htail, hc⟩ := exists_digit_cons z.natAbs
      exact ⟨c, tail, htail, .inr hc⟩
  obtain ⟨c, tail, htail, hc⟩ := hcons
  refine .intro ⟨c, tail, htail, ?_, ?_⟩ fun _ hws hrest => ?_
  · exact isBlank_of_number hc
  · rintro rfl
    exact absurd hc (by decide)
  · have hnumber := number?_ofInt hz hrest
    rw [htail, List.cons_append] at hnumber ⊢
    rw [value?_append hws (isBlank_of_number hc), value?_number hc, hnumber]

/-- A list of texts starts like its first text. -/
theorem exists_cons_of_separated {α : Type} {R : α → List Char → Prop} {P : Char → Prop}
    (hR : ∀ a cs, R a cs → ∃ c tail, cs = c :: tail ∧ P c) {as : List α} {inner : List Char}
    (h : Separated R as inner) : ∃ c tail, inner = c :: tail ∧ P c := by
  cases h with
  | single h => exact hR _ _ h
  | cons h =>
    obtain ⟨c, tail, rfl, hc⟩ := hR _ _ h
    exact ⟨c, _, rfl, hc⟩

variable {R : Json → List Char → Prop}

theorem reads_array (hlevel : level < maxNesting) (hR : ∀ j cs, R j cs → Reads (level + 1) j cs)
    {js : List Json} {cs : List Char} (h : Enclosed R '[' ']' js cs) :
    Reads level (array js) cs := by
  cases h with
  | empty =>
    refine .intro ⟨_, _, rfl, rfl, by decide⟩ fun {_ _ rest} _ hws _ => ?_
    rw [← nested_of_lt hlevel (array [])]
    exact value?_append hws rfl (']' :: rest)
  | full hws₁ hjs hws₂ =>
    refine .intro ⟨_, _, rfl, rfl, by decide⟩ fun hfuel hws _ => ?_
    have hinner := exists_cons_of_separated (fun j cs hj => (hR j cs hj).exists_cons) hjs
    have helements := elements?_of_separated hR hjs [] blank_nil hws₂
    simp only [List.length_append, List.length_cons] at hfuel
    simp only [List.cons_append, List.append_assoc, List.nil_append, List.reverse_nil]
      at helements ⊢
    rw [value?_append hws rfl, value?_array hws₁ hinner (helements _ (by omega) _),
      nested_of_lt hlevel]

theorem reads_object (hlevel : level < maxNesting) (hR : ∀ j cs, R j cs → Reads (level + 1) j cs)
    {ms : List (String × Json)} {cs : List Char}
    (h : Enclosed (SpellsMember R) '\x7b' '\x7d' ms cs) : Reads level (object ms) cs := by
  cases h with
  | empty =>
    refine .intro ⟨_, _, rfl, rfl, by decide⟩ fun {_ _ rest} _ hws _ => ?_
    rw [← nested_of_lt hlevel (object [])]
    exact value?_append hws rfl ('\x7d' :: rest)
  | full hws₁ hms hws₂ =>
    refine .intro ⟨_, _, rfl, rfl, by decide⟩ fun hfuel hws _ => ?_
    have hinner := exists_cons_of_separated (P := (· = '"'))
      (fun m cs ⟨_, _, _, _, hcs⟩ => ⟨_, _, hcs, rfl⟩) hms
    have hmembers := members?_of_separated hR hms [] blank_nil hws₂
    simp only [List.length_append, List.length_cons] at hfuel
    simp only [List.cons_append, List.append_assoc, List.nil_append, List.reverse_nil]
      at hmembers ⊢
    rw [value?_append hws rfl, value?_object hws₁ hinner (hmembers _ (by omega) _),
      nested_of_lt hlevel, objectOf_map]

/-- **Every text of the grammar is read as the value it spells.** -/
theorem reads_of_spells {room : Nat} (hroom : level + room ≤ maxNesting) {j : Json}
    {cs : List Char} (h : Spells room j cs) : Reads level j cs := by
  induction room using Nat.strongRecOn generalizing level j cs with
  | ind room ih =>
    cases j with
    | null =>
      rw [Spells] at h
      exact h ▸ reads_null
    | bool b =>
      cases b with
      | true =>
        rw [Spells] at h
        exact h ▸ reads_true
      | false =>
        rw [Spells] at h
        exact h ▸ reads_false
    | int z =>
      rw [Spells] at h
      exact h.2 ▸ reads_int h.1
    | string s =>
      rw [Spells] at h
      exact h ▸ reads_string s
    | array js =>
      cases room with
      | zero => simp [Spells] at h
      | succ room =>
        rw [Spells] at h
        exact reads_array (by omega) (fun _ _ => ih room (by omega) (by omega)) h
    | object ms =>
      cases room with
      | zero => simp [Spells] at h
      | succ room =>
        rw [Spells] at h
        exact reads_object (by omega) (fun _ _ => ih room (by omega) (by omega)) h
    | real literal => simp [Spells] at h
    | unreadable => simp [Spells] at h

end Reads

/-! ### Writing -/

/-- A value that loses nothing when it is written: its integers have less than 64 bits, it has no
other numbers, and containers are nested so deep at most. -/
def Plain : Nat → Json → Prop
  | _, null => True
  | _, bool _ => True
  | _, int z => z.natAbs < UInt64.size
  | _, string _ => True
  | room + 1, array js => ∀ j ∈ js, Plain room j
  | room + 1, object ms => ∀ m ∈ ms, Plain room m.2
  | _, _ => False

section Plain

variable {room : Nat}

@[simp]
theorem plain_null : Plain room null := by
  cases room <;> exact trivial

@[simp]
theorem plain_bool (b : Bool) : Plain room (bool b) := by
  cases room <;> exact trivial

theorem plain_int {z : Int} (h : z.natAbs < UInt64.size) : Plain room (int z) := by
  cases room <;> exact h

@[simp]
theorem plain_string (s : String) : Plain room (string s) := by
  cases room <;> exact trivial

theorem plain_array {js : List Json} :
    Plain (room + 1) (array js) ↔ ∀ j ∈ js, Plain room j :=
  .rfl

@[simp]
theorem plain_object {ms : List (String × Json)} :
    Plain (room + 1) (object ms) ↔ ∀ m ∈ ms, Plain room m.2 :=
  .rfl

end Plain

/-- A printer writes texts of the grammar between brackets if it writes the texts one after the
other, each after a gap, with commas between them and another gap at the end. -/
theorem enclosed_of_texts {α : Type} {R : α → List Char → Prop} {opening closing : Char}
    {gap gap' : List Char} (hgap : Blank gap) (hgap' : Blank gap') (text : α → List Char)
    (texts whole : List α → List Char) (hone : ∀ a, texts [a] = gap ++ text a)
    (hcons : ∀ a b as, texts (a :: b :: as) = gap ++ (text a ++ ',' :: texts (b :: as)))
    (hempty : whole [] = [opening, closing])
    (hfull : ∀ a as, whole (a :: as) = opening :: (texts (a :: as) ++ (gap' ++ [closing])))
    {as : List α} (h : ∀ a ∈ as, R a (text a)) : Enclosed R opening closing as (whole as) := by
  have hseparated : ∀ a as, (∀ b ∈ a :: as, R b (text b)) →
      ∃ inner, texts (a :: as) = gap ++ inner ∧ Separated R (a :: as) inner := by
    intro a as
    induction as generalizing a with
    | nil => exact fun h => ⟨_, hone a, .single (h a List.mem_cons_self)⟩
    | cons b as ih =>
      intro h
      obtain ⟨ha, has⟩ := List.forall_mem_cons.mp h
      obtain ⟨inner, hinner, hseparated⟩ := ih b has
      rw [hcons, hinner]
      exact ⟨_, rfl, .cons ha hgap hseparated⟩
  cases as with
  | nil =>
    rw [hempty]
    exact .empty
  | cons a as =>
    obtain ⟨inner, hinner, hseparated⟩ := hseparated a as h
    rw [hfull, hinner, List.append_assoc]
    exact .full hgap hseparated hgap'

theorem blank_space : Blank [' '] := by simp [Blank, isBlank]

theorem blank_newline (level : Nat) : Blank (newline level).toList := by
  intro c hc
  rw [newline, String.toList_ofList] at hc
  rcases List.mem_cons.mp hc with rfl | hc
  · rfl
  · rw [(List.mem_replicate.mp hc).2]
    rfl

theorem toList_quote (s : String) : (quote s).toList = quoted s := by
  simp [quote, quoted]

section Printers

variable {R : Json → List Char → Prop}

theorem enclosed_compactElements {js : List Json} (h : ∀ j ∈ js, R j (compact j).toList) :
    Enclosed R '[' ']' js (compact (array js)).toList := by
  refine enclosed_of_texts blank_nil blank_nil (fun j => (compact j).toList)
    (fun js => (compactElements js).toList) (fun js => (compact (array js)).toList)
    (fun _ => ?_) (fun _ _ _ => ?_) ?_ (fun _ _ => ?_) h
  · simp [compactElements]
  · simp [compactElements]
  · simp [compact, compactElements]
  · simp [compact]

theorem enclosed_compactMembers {ms : List (String × Json)}
    (h : ∀ m ∈ ms, R m.2 (compact m.2).toList) :
    Enclosed (SpellsMember R) '\x7b' '\x7d' ms (compact (object ms)).toList := by
  refine enclosed_of_texts blank_nil blank_nil
    (fun m => quoted m.1 ++ ':' :: (compact m.2).toList)
    (fun ms => (compactMembers ms).toList) (fun ms => (compact (object ms)).toList)
    (fun _ => ?_) (fun _ _ _ => ?_) ?_ (fun _ _ => ?_)
    fun m hm => ⟨[], (compact m.2).toList, blank_nil, h m hm, by simp only [List.nil_append]⟩
  · simp [compactMembers, toList_quote]
  · simp [compactMembers, toList_quote]
  · simp [compact, compactMembers]
  · simp [compact]

theorem enclosed_prettyElements {level : Nat} {js : List Json}
    (h : ∀ j ∈ js, R j (prettyAt (level + 1) j).toList) :
    Enclosed R '[' ']' js (prettyAt level (array js)).toList := by
  refine enclosed_of_texts (blank_newline (level + 1)) (blank_newline level)
    (fun j => (prettyAt (level + 1) j).toList) (fun js => (prettyElements (level + 1) js).toList)
    (fun js => (prettyAt level (array js)).toList)
    (fun _ => ?_) (fun _ _ _ => ?_) ?_ (fun _ _ => ?_) h
  · simp [prettyElements]
  · simp [prettyElements]
  · simp [prettyAt]
  · simp [prettyAt]

theorem enclosed_prettyMembers {level : Nat} {ms : List (String × Json)}
    (h : ∀ m ∈ ms, R m.2 (prettyAt (level + 1) m.2).toList) :
    Enclosed (SpellsMember R) '\x7b' '\x7d' ms (prettyAt level (object ms)).toList := by
  refine enclosed_of_texts (blank_newline (level + 1)) (blank_newline level)
    (fun m => quoted m.1 ++ ':' :: ([' '] ++ (prettyAt (level + 1) m.2).toList))
    (fun ms => (prettyMembers (level + 1) ms).toList)
    (fun ms => (prettyAt level (object ms)).toList)
    (fun _ => ?_) (fun _ _ _ => ?_) ?_ (fun _ _ => ?_)
    fun m hm => ⟨[' '], (prettyAt (level + 1) m.2).toList, blank_space, h m hm, rfl⟩
  · simp [prettyMembers, toList_quote]
  · simp [prettyMembers, toList_quote]
  · simp [prettyAt]
  · simp [prettyAt]

end Printers

/-- **On one line, a text of the grammar is written.** -/
theorem spells_compact {room : Nat} {j : Json} (h : Plain room j) :
    Spells room j (compact j).toList := by
  induction room using Nat.strongRecOn generalizing j with
  | ind room ih =>
    cases j with
    | null => simp [Spells, compact]
    | bool b => cases b <;> simp [Spells, compact]
    | int z => simpa [Spells, compact, Plain] using h
    | string s => simp [Spells, compact, toList_quote]
    | array js =>
      cases room with
      | zero => simp [Plain] at h
      | succ room =>
        rw [Plain] at h
        rw [Spells]
        exact enclosed_compactElements fun j hj => ih room room.lt_succ_self (h j hj)
    | object ms =>
      cases room with
      | zero => simp [Plain] at h
      | succ room =>
        rw [Plain] at h
        rw [Spells]
        exact enclosed_compactMembers fun m hm => ih room room.lt_succ_self (h m hm)
    | real literal => simp [Plain] at h
    | unreadable => simp [Plain] at h

/-- **Over several lines, another text of the grammar is written.** -/
theorem spells_prettyAt {room : Nat} {j : Json} (h : Plain room j) (level : Nat) :
    Spells room j (prettyAt level j).toList := by
  induction room using Nat.strongRecOn generalizing level j with
  | ind room ih =>
    cases j with
    | null => simp [Spells, prettyAt]
    | bool b => cases b <;> simp [Spells, prettyAt]
    | int z => simpa [Spells, prettyAt, Plain] using h
    | string s => simp [Spells, prettyAt, toList_quote]
    | array js =>
      cases room with
      | zero => simp [Plain] at h
      | succ room =>
        rw [Plain] at h
        rw [Spells]
        exact enclosed_prettyElements fun j hj => ih room room.lt_succ_self (h j hj) _
    | object ms =>
      cases room with
      | zero => simp [Plain] at h
      | succ room =>
        rw [Plain] at h
        rw [Spells]
        exact enclosed_prettyMembers fun m hm => ih room room.lt_succ_self (h m hm) _
    | real literal => simp [Plain] at h
    | unreadable => simp [Plain] at h

/-! ### Texts as a whole -/

/-- The length of the text bounds the reader, but does not stop it. Blanks may follow. -/
theorem parse?_of_spells {j : Json} {cs ws : List Char} (h : Spells maxNesting j cs)
    (hws : Blank ws) {text : String} (htext : text.toList = cs ++ ws) : parse? text = some j := by
  have hreads : Reads 0 j cs := reads_of_spells (Nat.zero_add _).le h
  have hfuel : 2 * cs.length ≤ 2 * (cs ++ ws).length + 2 := by
    rw [List.length_append]
    omega
  have hends : Ends ws := List.append_nil ws ▸ ends_append hws ends_nil
  have hvalue : value? (2 * (cs ++ ws).length + 2) 0 (cs ++ ws) = some (j, ws) :=
    hreads.value?_eq hfuel blank_nil hends
  have hrest : skipBlanks ws = [] := List.dropWhile_eq_nil_iff.mpr hws
  simp only [parse?, htext, hvalue, hrest, List.isEmpty_nil, if_true]

section Texts

variable {j : Json} (h : Plain maxNesting j)

include h

theorem parse?_compact : parse? (compact j) = some j :=
  parse?_of_spells (spells_compact h) blank_nil (List.append_nil _).symm

theorem parse?_pretty : parse? (pretty j) = some j :=
  parse?_of_spells (spells_prettyAt h 0) blank_nil (List.append_nil _).symm

/-- A text that ends a file ends its last line. -/
theorem parse?_pretty_newline : parse? (pretty j ++ "\n") = some j :=
  parse?_of_spells (spells_prettyAt h 0) (blank_newline 0) String.toList_append

end Texts

end ShieldedLedger.Json
