import Rulebook.Proofs.Lexeme

/-!
# The front of a text

The reader takes a value off the front of a text and leaves the rest untouched. A front is described by what the reader
makes of it whatever follows (`Outline.Reads`), so fronts of items and members are put together without looking at how
they are written.

* `Outline.ValueStep`, `Outline.ItemsStep`, `Outline.MembersStep`: what one step of the reader can come to.
* `Outline.readValue_front`: what is read of a text is read of a front of it, and is no deeper than there was room.
* `Outline.Reads.read_append`: a front that is not too deep is read whatever follows.
* `Outline.intact_of_json?`: a value is intact only when its end has been found.
-/

namespace Rulebook
namespace Outline

open Numeral (Ends)

variable {fuel room : Nat} {gap front rest : List Char}

mutual
/-- How many arrays and objects are nested. -/
def depth : Outline → Nat
  | arr items _ => depthItems items + 1
  | obj members _ => depthMembers members + 1
  | _ => 0

/-- The deepest of a list of outlines. -/
def depthItems : List Outline → Nat
  | [] => 0
  | item :: rest => max (depth item) (depthItems rest)

/-- The deepest of the values of a list of members. -/
def depthMembers : List (String × Outline) → Nat
  | [] => 0
  | (_, value) :: rest => max (depth value) (depthMembers rest)
end

/-! ## One step of the reader -/

/-- Reads a value that is neither an array nor an object, behind its first character. -/
def readScalar (c : Char) (text : List Char) : Option (Outline × List Char) :=
  if c = 'n' then (dropWord ['u', 'l', 'l'] text).map fun rest => (null, rest)
  else if c = 't' then (dropWord ['r', 'u', 'e'] text).map fun rest => (bool true, rest)
  else if c = 'f' then (dropWord ['a', 'l', 's', 'e'] text).map fun rest => (bool false, rest)
  else if c = '"' then (readString text).map fun r => (str (String.ofList r.1), r.2)
  else (Numeral.read (c :: text)).bind fun r => r.1.value.map fun x => (num x, r.2)

/-- What is read of a scalar, as the reader gives it. -/
def given : Option (Outline × List Char) → Outline × Option (List Char)
  | some (o, rest) => (o, some rest)
  | none => (broken, none)

theorem readScalar_of_given {r : Option (Outline × List Char)} {o : Outline} (h : given r = (o, some rest)) :
    r = some (o, rest) := by
  cases r with
  | none => cases h
  | some r =>
    cases h
    rfl

theorem readValue_scalar {c : Char} (hblank : isBlank c = false) (harr : c ≠ '[') (hobj : c ≠ '\x7b')
    (text : List Char) : readValue (fuel + 1) room (c :: text) = given (readScalar c text) := by
  rw [readValue, skipBlanks_cons hblank]
  simp only [readScalar, harr, hobj, if_false]
  split
  · cases dropWord ['u', 'l', 'l'] text <;> rfl
  split
  · cases dropWord ['r', 'u', 'e'] text <;> rfl
  split
  · cases dropWord ['a', 'l', 's', 'e'] text <;> rfl
  split
  · cases readString text <;> rfl
  cases Numeral.read (c :: text) with
  | none => rfl
  | some r =>
    simp only [Option.bind_some]
    cases r.1.value <;> rfl

theorem readValue_arr (text : List Char) : readValue (fuel + 1) (room + 1) ('[' :: text) =
    (arr (readItems fuel room true text).1 (readItems fuel room true text).2.isSome,
      (readItems fuel room true text).2) := by
  rw [readValue, skipBlanks_cons (by decide)]
  simp

theorem readValue_obj (text : List Char) : readValue (fuel + 1) (room + 1) ('\x7b' :: text) =
    (obj (readMembers fuel room true text).1 (readMembers fuel room true text).2.isSome,
      (readMembers fuel room true text).2) := by
  rw [readValue, skipBlanks_cons (by decide)]
  simp

theorem readValue_blank (h : Blank gap) (text : List Char) :
    readValue fuel room (gap ++ text) = readValue fuel room text := by
  cases fuel with
  | zero => rw [readValue, readValue]
  | succ fuel => rw [readValue, readValue, skipBlanks_append text h]

theorem readItems_blank (h : Blank gap) (first : Bool) (text : List Char) :
    readItems fuel room first (gap ++ text) = readItems fuel room first text := by
  cases fuel with
  | zero => rw [readItems, readItems]
  | succ fuel => rw [readItems, readItems, skipBlanks_append text h]

theorem readMembers_blank (h : Blank gap) (first : Bool) (text : List Char) :
    readMembers fuel room first (gap ++ text) = readMembers fuel room first text := by
  cases fuel with
  | zero => rw [readMembers, readMembers]
  | succ fuel => rw [readMembers, readMembers, skipBlanks_append text h]

/-- What reading a value of a text can come to: behind blanks a scalar, an array or an object, each with room for one
more level or without. -/
inductive ValueStep (fuel : Nat) : Nat → List Char → Outline → Option (List Char) → Prop
  | blank {room : Nat} {gap : List Char} : Blank gap → ValueStep fuel room gap broken none
  | scalar {room : Nat} {gap body : List Char} {c : Char} {o : Outline} {after : Option (List Char)} :
      Blank gap → isBlank c = false → c ≠ '[' → c ≠ '\x7b' → given (readScalar c body) = (o, after) →
      ValueStep fuel room (gap ++ c :: body) o after
  | arr {room : Nat} {gap body : List Char} {items : List Outline} {after : Option (List Char)} :
      Blank gap → readItems fuel room true body = (items, after) →
      ValueStep fuel (room + 1) (gap ++ '[' :: body) (arr items after.isSome) after
  | obj {room : Nat} {gap body : List Char} {members : List (String × Outline)} {after : Option (List Char)} :
      Blank gap → readMembers fuel room true body = (members, after) →
      ValueStep fuel (room + 1) (gap ++ '\x7b' :: body) (obj members after.isSome) after
  | deepArr {gap body : List Char} : Blank gap → ValueStep fuel 0 (gap ++ '[' :: body) (arr [] false) none
  | deepObj {gap body : List Char} : Blank gap → ValueStep fuel 0 (gap ++ '\x7b' :: body) (obj [] false) none

theorem valueStep_of_readValue {text : List Char} {o : Outline} {after : Option (List Char)}
    (h : readValue (fuel + 1) room text = (o, after)) : ValueStep fuel room text o after := by
  obtain ⟨gap, hgap, htext⟩ := skipBlanks_front text
  rw [htext, readValue_blank hgap] at h
  rw [htext]
  cases hskip : skipBlanks text with
  | nil =>
    rw [hskip, readValue] at h
    cases h
    rw [List.append_nil]
    exact .blank hgap
  | cons c body =>
    rw [hskip] at h
    by_cases harr : c = '['
    · subst harr
      cases room with
      | zero =>
        rw [readValue, skipBlanks_cons (by decide)] at h
        cases h
        exact .deepArr hgap
      | succ room =>
        rw [readValue_arr] at h
        cases h
        exact .arr hgap rfl
    · by_cases hobj : c = '\x7b'
      · subst hobj
        cases room with
        | zero =>
          rw [readValue, skipBlanks_cons (by decide)] at h
          cases h
          exact .deepObj hgap
        | succ room =>
          rw [readValue_obj] at h
          cases h
          exact .obj hgap rfl
      · have hblank := isBlank_of_skipBlanks hskip
        rw [readValue_scalar hblank harr hobj] at h
        exact .scalar hgap hblank harr hobj h

/-- No value is read in no steps. -/
theorem readValue_zero (text : List Char) : readValue 0 room text = (broken, none) := by
  rw [readValue]

/-- A scalar is no deeper than nothing, and is read off the front of a text whatever follows; only behind a number
something must stand that ends it. -/
theorem readScalar_front {c : Char} {text : List Char} {o : Outline} (h : readScalar c text = some (o, rest)) :
    o.depth = 0 ∧ ∃ front, text = front ++ rest ∧
      ∀ other, ((∃ x, o = num x) → Ends other) → readScalar c (front ++ other) = some (o, other) := by
  unfold readScalar at h
  split at h
  · next hc =>
    obtain ⟨rfl, htext⟩ := map_dropWord_eq_some h
    exact ⟨rfl, _, htext, fun _ _ => hc ▸ rfl⟩
  split at h
  · next hc =>
    obtain ⟨rfl, htext⟩ := map_dropWord_eq_some h
    exact ⟨rfl, _, htext, fun _ _ => hc ▸ rfl⟩
  split at h
  · next hc =>
    obtain ⟨rfl, htext⟩ := map_dropWord_eq_some h
    exact ⟨rfl, _, htext, fun _ _ => hc ▸ rfl⟩
  split at h
  · next hc =>
    obtain ⟨⟨s, _⟩, hread, heq⟩ := Option.map_eq_some_iff.1 h
    cases heq
    subst hc
    obtain ⟨front, rfl, hfront⟩ := readString_front hread
    refine ⟨rfl, front, rfl, fun other _ => ?_⟩
    simp [readScalar, hfront]
  · next hn ht hf hquote =>
    obtain ⟨⟨n, _⟩, hread, h⟩ := Option.bind_eq_some_iff.1 h
    obtain ⟨x, hx, heq⟩ := Option.map_eq_some_iff.1 h
    cases heq
    obtain ⟨c', front, -, heq, hfront⟩ := Numeral.read_front hread
    cases heq
    refine ⟨rfl, front, rfl, fun other ho => ?_⟩
    simp only [readScalar, hn, ht, hf, hquote, if_false, hfront other (ho ⟨x, rfl⟩), Option.bind_some, hx,
      Option.map_some]

/-! ## Fronts -/

/-- A text that is read as an outline whatever follows, given enough steps and enough room; only behind a number
something must stand that ends it. -/
def Reads (front : List Char) (o : Outline) : Prop :=
  ∀ (fuel room : Nat) (other : List Char), 2 * front.length ≤ fuel + 1 → o.depth ≤ room →
    ((∃ x, o = num x) → Ends other) → readValue fuel room (front ++ other) = (o, some other)

/-- A text that is read as the items of an array up to its closing bracket, whatever follows. -/
def ReadsItems (first : Bool) (front : List Char) (items : List Outline) : Prop :=
  ∀ (fuel room : Nat) (other : List Char), 2 * front.length ≤ fuel → depthItems items ≤ room →
    readItems fuel room first (front ++ other) = (items, some other)

/-- A text that is read as the members of an object up to its closing brace, whatever follows. -/
def ReadsMembers (first : Bool) (front : List Char) (members : List (String × Outline)) : Prop :=
  ∀ (fuel room : Nat) (other : List Char), 2 * front.length ≤ fuel → depthMembers members ≤ room →
    readMembers fuel room first (front ++ other) = (members, some other)

theorem Reads.blank {o : Outline} (hgap : Blank gap) (h : Reads front o) : Reads (gap ++ front) o := by
  intro fuel room other hfuel hroom hends
  rw [List.length_append] at hfuel
  rw [List.append_assoc, readValue_blank hgap]
  exact h _ _ _ (by omega) hroom hends

theorem ReadsItems.blank {first : Bool} {items : List Outline} (hgap : Blank gap) (h : ReadsItems first front items) :
    ReadsItems first (gap ++ front) items := by
  intro fuel room other hfuel hroom
  rw [List.length_append] at hfuel
  rw [List.append_assoc, readItems_blank hgap]
  exact h _ _ _ (by omega) hroom

theorem ReadsMembers.blank {first : Bool} {members : List (String × Outline)} (hgap : Blank gap)
    (h : ReadsMembers first front members) : ReadsMembers first (gap ++ front) members := by
  intro fuel room other hfuel hroom
  rw [List.length_append] at hfuel
  rw [List.append_assoc, readMembers_blank hgap]
  exact h _ _ _ (by omega) hroom

/-- A scalar. -/
theorem reads_scalar {c : Char} {o : Outline} (hblank : isBlank c = false) (harr : c ≠ '[') (hobj : c ≠ '\x7b')
    (h : readScalar c front = some (o, [])) : Reads (c :: front) o := by
  obtain ⟨-, text, htext, hread⟩ := readScalar_front h
  rw [List.append_nil] at htext
  subst htext
  intro fuel room other hfuel _ hends
  cases fuel with
  | zero =>
    rw [List.length_cons] at hfuel
    omega
  | succ fuel =>
    rw [List.cons_append, readValue_scalar hblank harr hobj, hread other hends]
    rfl

/-- An array. -/
theorem reads_arr {items : List Outline} (h : ReadsItems true front items) : Reads ('[' :: front) (arr items true) := by
  intro fuel room other hfuel hroom _
  rw [List.length_cons] at hfuel
  rw [depth] at hroom
  obtain ⟨fuel, rfl⟩ : ∃ k, fuel = k + 1 := ⟨fuel - 1, by omega⟩
  obtain ⟨room, rfl⟩ : ∃ k, room = k + 1 := ⟨room - 1, by omega⟩
  have hitems : readItems fuel room true (front ++ other) = (items, some other) := h _ _ _ (by omega) (by omega)
  rw [List.cons_append, readValue_arr, hitems]
  rfl

/-- An object. -/
theorem reads_obj {members : List (String × Outline)} (h : ReadsMembers true front members) :
    Reads ('\x7b' :: front) (obj members true) := by
  intro fuel room other hfuel hroom _
  rw [List.length_cons] at hfuel
  rw [depth] at hroom
  obtain ⟨fuel, rfl⟩ : ∃ k, fuel = k + 1 := ⟨fuel - 1, by omega⟩
  obtain ⟨room, rfl⟩ : ∃ k, room = k + 1 := ⟨room - 1, by omega⟩
  have hmembers : readMembers fuel room true (front ++ other) = (members, some other) := h _ _ _ (by omega) (by omega)
  rw [List.cons_append, readValue_obj, hmembers]
  rfl

/-! ## Items and members -/

/-- A numeral ends in front of blanks. -/
theorem ends_of_skipBlanks {c : Char} {text body : List Char} (h : skipBlanks text = c :: body)
    (hc : Numeral.digit? c = none ∧ c ≠ '.' ∧ c ≠ 'e' ∧ c ≠ 'E') : Ends text := by
  cases text with
  | nil => exact Numeral.ends_nil
  | cons c' rest =>
    unfold skipBlanks at h
    split at h
    · next hblank =>
      refine Numeral.ends_cons _ ?_
      have hcases : ((c' = ' ' ∨ c' = '\n') ∨ c' = '\t') ∨ c' = '\r' := by simpa [isBlank] using hblank
      rcases hcases with ((rfl | rfl) | rfl) | rfl <;> decide
    · cases h
      exact Numeral.ends_cons _ hc

/-- No value starts with a closing bracket. -/
theorem skipBlanks_of_readValue {text : List Char} {o : Outline} (h : readValue fuel room text = (o, some rest)) :
    ∃ c body, skipBlanks text = c :: body ∧ c ≠ ']' := by
  have hskip : ∀ {gap body : List Char} {c : Char}, Blank gap → isBlank c = false →
      skipBlanks (gap ++ c :: body) = c :: body := by
    intro gap body c hgap hc
    rw [skipBlanks_append _ hgap, skipBlanks_cons hc]
  cases fuel with
  | zero =>
    rw [readValue_zero] at h
    cases h
  | succ fuel =>
    cases valueStep_of_readValue h with
    | arr hgap hitems => exact ⟨'[', _, hskip hgap (by decide), by decide⟩
    | obj hgap hmembers => exact ⟨'\x7b', _, hskip hgap (by decide), by decide⟩
    | @scalar _ _ body c _ _ hgap hblank harr hobj hgiven =>
      refine ⟨c, body, hskip hgap hblank, ?_⟩
      rintro rfl
      cases hread : Numeral.read (']' :: body) with
      | none => simp [readScalar, hread, given] at hgiven
      | some r =>
        obtain ⟨c, front, hc, heq, -⟩ := Numeral.read_front hread
        cases heq
        rcases hc with hc | ⟨d, hd⟩
        · cases hc
        · cases hd

theorem readItems_close (first : Bool) (text : List Char) :
    readItems (fuel + 1) room first (']' :: text) = ([], some text) := by
  rw [readItems, skipBlanks_cons (by decide)]
  simp

/-- What stands in front of an item or a member: nothing before the first, a comma before any other. -/
inductive Separator : Bool → List Char → Prop
  | first : Separator true []
  | comma {gap : List Char} : Blank gap → Separator false (',' :: gap)

/-- The items from the start of one. -/
theorem readItems_value {first : Bool} {lead text : List Char} {item : Outline} (hlead : Separator first lead)
    (h : readValue fuel room text = (item, some rest)) : readItems (fuel + 1) room first (lead ++ text) =
      (item :: (readItems fuel room false rest).1, (readItems fuel room false rest).2) := by
  obtain ⟨c, body, hskip, hc⟩ := skipBlanks_of_readValue h
  obtain ⟨gap, hgap, htext⟩ := skipBlanks_front text
  rw [hskip] at htext
  rw [htext, readValue_blank hgap] at h
  cases hlead with
  | first =>
    rw [List.nil_append, readItems, hskip]
    simp [hc, h]
  | comma hblank =>
    rw [List.cons_append, readItems, skipBlanks_cons (by decide)]
    simp [skipBlanks_append text hblank, hskip, hc, h]

/-- A numeral ends in front of further items. -/
theorem ends_of_readItems {text : List Char} {items : List Outline}
    (h : readItems fuel room false text = (items, some rest)) : Ends text := by
  cases fuel with
  | zero =>
    rw [readItems] at h
    cases h
  | succ fuel =>
    rw [readItems] at h
    split at h
    · cases h
    · next c body hskip =>
      refine ends_of_skipBlanks hskip ?_
      by_cases hclose : c = ']'
      · subst hclose
        decide
      · by_cases hcomma : c = ','
        · subst hcomma
          decide
        · simp [hclose, hcomma] at h

/-- The closing bracket. -/
theorem readsItems_close (first : Bool) : ReadsItems first [']'] [] := by
  intro fuel room other hfuel _
  obtain ⟨fuel, rfl⟩ : ∃ k, fuel = k + 1 := ⟨fuel - 1, by simp at hfuel; omega⟩
  exact readItems_close first other

/-- Something is read off every front. -/
theorem Reads.length_pos {o : Outline} (h : Reads front o) : 0 < front.length := by
  cases front with
  | cons c front => exact Nat.succ_pos _
  | nil =>
    have hread : readValue 0 o.depth ([] ++ []) = (o, some []) :=
      h _ _ _ (by simp) (Nat.le_refl _) fun _ => Numeral.ends_nil
    rw [readValue] at hread
    cases hread

/-- An item, and further ones. -/
theorem ReadsItems.cons {first : Bool} {lead : List Char} {item : Outline} {items : List Outline}
    (hlead : Separator first lead) (hitem : Reads front item) (hrest : ReadsItems false rest items) :
    ReadsItems first (lead ++ (front ++ rest)) (item :: items) := by
  intro fuel room other hfuel hroom
  have hpos := hitem.length_pos
  rw [List.length_append, List.length_append] at hfuel
  rw [depthItems] at hroom
  obtain ⟨fuel, rfl⟩ : ∃ k, fuel = k + 1 := ⟨fuel - 1, by omega⟩
  have hitems : readItems fuel room false (rest ++ other) = (items, some other) := hrest _ _ _ (by omega) (by omega)
  have hvalue : readValue fuel room (front ++ (rest ++ other)) = (item, some (rest ++ other)) :=
    hitem _ _ _ (by omega) (by omega) fun _ => ends_of_readItems hitems
  rw [List.append_assoc, List.append_assoc, readItems_value hlead hvalue, hitems]

theorem readMembers_close (first : Bool) (text : List Char) :
    readMembers (fuel + 1) room first ('\x7d' :: text) = ([], some text) := by
  rw [readMembers, skipBlanks_cons (by decide)]
  simp

/-- A numeral ends in front of further members. -/
theorem ends_of_readMembers {text : List Char} {members : List (String × Outline)}
    (h : readMembers fuel room false text = (members, some rest)) : Ends text := by
  cases fuel with
  | zero =>
    rw [readMembers] at h
    cases h
  | succ fuel =>
    rw [readMembers] at h
    split at h
    · cases h
    · next c body hskip =>
      refine ends_of_skipBlanks hskip ?_
      by_cases hclose : c = '\x7d'
      · subst hclose
        decide
      · by_cases hcomma : c = ','
        · subst hcomma
          decide
        · simp [hclose, hcomma] at h

/-- A text that is read as a member: its name in quotes, a colon and its value. -/
inductive ReadsMember : List Char → String × Outline → Prop
  | mk {key name gap front : List Char} {value : Outline} : (∀ other, readString (key ++ other) = some (name, other)) →
      Blank gap → Reads front value → ReadsMember ('"' :: (key ++ (gap ++ ':' :: front))) (String.ofList name, value)

/-- The members from the start of one. -/
theorem readMembers_value {first : Bool} {lead key name colon value : List Char} {item : Outline}
    (hlead : Separator first lead) (hkey : readString key = some (name, colon))
    (hcolon : skipBlanks colon = ':' :: value) (h : readValue fuel room value = (item, some rest)) :
    readMembers (fuel + 1) room first (lead ++ '"' :: key) =
      ((String.ofList name, item) :: (readMembers fuel room false rest).1, (readMembers fuel room false rest).2) := by
  cases hlead with
  | first =>
    rw [List.nil_append, readMembers, skipBlanks_cons (by decide)]
    simp [hkey, hcolon, h]
  | @comma gap hblank =>
    have hquote : skipBlanks (gap ++ '"' :: key) = '"' :: key := by
      rw [skipBlanks_append _ hblank, skipBlanks_cons (by decide)]
    rw [List.cons_append, readMembers, skipBlanks_cons (by decide)]
    simp [hquote, hkey, hcolon, h]

/-- The closing brace. -/
theorem readsMembers_close (first : Bool) : ReadsMembers first ['\x7d'] [] := by
  intro fuel room other hfuel _
  obtain ⟨fuel, rfl⟩ : ∃ k, fuel = k + 1 := ⟨fuel - 1, by simp at hfuel; omega⟩
  exact readMembers_close first other

/-- A member, and further ones. -/
theorem ReadsMembers.cons {first : Bool} {lead : List Char} {member : String × Outline}
    {members : List (String × Outline)} (hlead : Separator first lead) (hmember : ReadsMember front member)
    (hrest : ReadsMembers false rest members) : ReadsMembers first (lead ++ (front ++ rest)) (member :: members) := by
  obtain @⟨key, name, gap, front, value, hkey, hgap, hvalue⟩ := hmember
  intro fuel room other hfuel hroom
  have hpos := hvalue.length_pos
  simp only [List.length_append, List.length_cons] at hfuel
  rw [depthMembers] at hroom
  obtain ⟨fuel, rfl⟩ : ∃ k, fuel = k + 1 := ⟨fuel - 1, by omega⟩
  have hmembers : readMembers fuel room false (rest ++ other) = (members, some other) :=
    hrest _ _ _ (by omega) (by omega)
  have hread : readValue fuel room (front ++ (rest ++ other)) = (value, some (rest ++ other)) :=
    hvalue _ _ _ (by omega) (by omega) fun _ => ends_of_readMembers hmembers
  have hcolon : skipBlanks (gap ++ ':' :: (front ++ (rest ++ other))) = ':' :: (front ++ (rest ++ other)) := by
    rw [skipBlanks_append _ hgap, skipBlanks_cons (by decide)]
  have hall := readMembers_value hlead (hkey _) hcolon hread
  rw [hmembers] at hall
  simpa using hall

/-! ## What is read stands in front -/

/-- Items end at a closing bracket, or start with one item that others follow. -/
inductive ItemsStep (fuel room : Nat) (first : Bool) (rest : List Char) : List Char → List Outline → Prop
  | close {gap : List Char} : Blank gap → ItemsStep fuel room first rest (gap ++ ']' :: rest) []
  | item {gap lead start after : List Char} {item : Outline} {others : List Outline} :
      Blank gap → Separator first lead → readValue fuel room start = (item, some after) →
      readItems fuel room false after = (others, some rest) →
      ItemsStep fuel room first rest (gap ++ (lead ++ start)) (item :: others)

theorem itemsStep_of_readItems {first : Bool} {text : List Char} {items : List Outline}
    (h : readItems (fuel + 1) room first text = (items, some rest)) : ItemsStep fuel room first rest text items := by
  obtain ⟨gap, hgap, htext⟩ := skipBlanks_front text
  rw [readItems] at h
  generalize skipBlanks text = body at h htext
  subst htext
  cases body with
  | nil => cases h
  | cons c body =>
    by_cases hclose : c = ']'
    · rw [hclose] at h ⊢
      simp only [if_true] at h
      cases h
      exact .close hgap
    · simp only [if_neg hclose] at h
      split at h
      · cases h
      · next start hstart =>
        split at h
        · cases h
        · next item after hvalue =>
          have hlead : ∃ lead gap', Separator first lead ∧ Blank gap' ∧ c :: body = lead ++ (gap' ++ start) := by
            cases first with
            | true =>
              cases hstart
              exact ⟨[], [], .first, blank_nil, rfl⟩
            | false =>
              by_cases hcomma : c = ','
              · subst hcomma
                obtain ⟨gap', hgap', hbody⟩ := skipBlanks_front body
                have hskip : skipBlanks body = start := by
                  simp only [Bool.false_eq_true, if_false, if_true] at hstart
                  split at hstart
                  · cases hstart
                  · exact Option.some.inj hstart
                exact ⟨[','], gap', .comma blank_nil, hgap', by rw [hbody, hskip]; rfl⟩
              · simp [hcomma] at hstart
          obtain ⟨lead, gap', hlead, hgap', heq⟩ := hlead
          rw [← readValue_blank hgap'] at hvalue
          cases hothers : readItems fuel room false after with
          | mk others end' =>
            rw [hothers] at h
            cases h
            rw [heq]
            exact .item hgap hlead hvalue hothers

/-- Members end at a closing brace, or start with one member that others follow. -/
inductive MembersStep (fuel room : Nat) (first : Bool) (rest : List Char) :
    List Char → List (String × Outline) → Prop
  | close {gap : List Char} : Blank gap → MembersStep fuel room first rest (gap ++ '\x7d' :: rest) []
  | member {gap lead key name gap' start after : List Char} {value : Outline} {others : List (String × Outline)} :
      Blank gap → Separator first lead → readString key = some (name, gap' ++ ':' :: start) → Blank gap' →
      readValue fuel room start = (value, some after) → readMembers fuel room false after = (others, some rest) →
      MembersStep fuel room first rest (gap ++ (lead ++ '"' :: key)) ((String.ofList name, value) :: others)

theorem membersStep_of_readMembers {first : Bool} {text : List Char} {members : List (String × Outline)}
    (h : readMembers (fuel + 1) room first text = (members, some rest)) :
    MembersStep fuel room first rest text members := by
  obtain ⟨gap, hgap, htext⟩ := skipBlanks_front text
  rw [readMembers] at h
  generalize skipBlanks text = body at h htext
  subst htext
  cases body with
  | nil => cases h
  | cons c body =>
    by_cases hclose : c = '\x7d'
    · rw [hclose] at h ⊢
      simp only [if_true] at h
      cases h
      exact .close hgap
    · simp only [if_neg hclose] at h
      split at h
      · next key hstart =>
        have hlead : ∃ lead, Separator first lead ∧ c :: body = lead ++ '"' :: key := by
          cases first with
          | true =>
            cases hstart
            exact ⟨[], .first, rfl⟩
          | false =>
            by_cases hcomma : c = ','
            · subst hcomma
              obtain ⟨gap', hgap', hbody⟩ := skipBlanks_front body
              have hskip : skipBlanks body = '"' :: key := by
                simpa using hstart
              exact ⟨',' :: gap', .comma hgap', by rw [hbody, hskip]; rfl⟩
            · simp [hcomma] at hstart
        obtain ⟨lead, hlead, heq⟩ := hlead
        split at h
        · cases h
        · next name colon hkey =>
          obtain ⟨gap', hgap', hcolon⟩ := skipBlanks_front colon
          split at h
          · next start hskip =>
            rw [hskip] at hcolon
            split at h
            · cases h
            · next value after hvalue =>
              cases hothers : readMembers fuel room false after with
              | mk others end' =>
                rw [hothers] at h
                cases h
                rw [hcolon] at hkey
                rw [heq]
                exact .member hgap hlead hkey hgap' hvalue hothers
          · cases h
      · cases h

mutual
/-- **What is read of a text** stands in front of the rest, and is no deeper than there was room. -/
theorem readValue_front : ∀ {fuel room : Nat} {text rest : List Char} {o : Outline},
    readValue fuel room text = (o, some rest) → o.depth ≤ room ∧ ∃ front, text = front ++ rest ∧ Reads front o
  | 0, _, _, _, _, h => by
    rw [readValue_zero] at h
    cases h
  | fuel + 1, _, _, _, _, h => by
    cases valueStep_of_readValue h with
    | @scalar _ gap body c _ _ hgap hblank harr hobj hgiven =>
      obtain ⟨hdepth, front, rfl, hread⟩ := readScalar_front (readScalar_of_given hgiven)
      have halone := hread [] fun _ => Numeral.ends_nil
      rw [List.append_nil] at halone
      exact ⟨hdepth ▸ Nat.zero_le _, gap ++ c :: front, by simp, (reads_scalar hblank harr hobj halone).blank hgap⟩
    | @arr _ gap _ _ _ hgap hitems =>
      obtain ⟨hdepth, front, rfl, hreads⟩ := readItems_front hitems
      exact ⟨Nat.succ_le_succ hdepth, gap ++ '[' :: front, by simp, (reads_arr hreads).blank hgap⟩
    | @obj _ gap _ _ _ hgap hmembers =>
      obtain ⟨hdepth, front, rfl, hreads⟩ := readMembers_front hmembers
      exact ⟨Nat.succ_le_succ hdepth, gap ++ '\x7b' :: front, by simp, (reads_obj hreads).blank hgap⟩

/-- What is read of the items of an array stands in front of the rest. -/
theorem readItems_front : ∀ {fuel room : Nat} {first : Bool} {text rest : List Char} {items : List Outline},
    readItems fuel room first text = (items, some rest) →
      depthItems items ≤ room ∧ ∃ front, text = front ++ rest ∧ ReadsItems first front items
  | 0, _, _, _, _, _, h => by
    rw [readItems] at h
    cases h
  | fuel + 1, room, first, text, rest, items, h => by
    cases itemsStep_of_readItems h with
    | @close gap hgap => exact ⟨Nat.zero_le _, gap ++ [']'], by simp, (readsItems_close first).blank hgap⟩
    | @item gap lead _ _ _ _ hgap hlead hvalue hothers =>
      obtain ⟨hdepth, front, rfl, hreads⟩ := readValue_front hvalue
      obtain ⟨hdepths, front', rfl, hreads'⟩ := readItems_front hothers
      exact ⟨Nat.max_le.2 ⟨hdepth, hdepths⟩, gap ++ (lead ++ (front ++ front')), by simp,
        (hreads'.cons hlead hreads).blank hgap⟩

/-- What is read of the members of an object stands in front of the rest. -/
theorem readMembers_front : ∀ {fuel room : Nat} {first : Bool} {text rest : List Char}
    {members : List (String × Outline)}, readMembers fuel room first text = (members, some rest) →
      depthMembers members ≤ room ∧ ∃ front, text = front ++ rest ∧ ReadsMembers first front members
  | 0, _, _, _, _, _, h => by
    rw [readMembers] at h
    cases h
  | fuel + 1, room, first, text, rest, members, h => by
    cases membersStep_of_readMembers h with
    | @close gap hgap => exact ⟨Nat.zero_le _, gap ++ ['\x7d'], by simp, (readsMembers_close first).blank hgap⟩
    | @member gap lead _ _ gap' _ _ _ _ hgap hlead hkey hgap' hvalue hothers =>
      obtain ⟨hdepth, front, rfl, hreads⟩ := readValue_front hvalue
      obtain ⟨hdepths, front', rfl, hreads'⟩ := readMembers_front hothers
      obtain ⟨key', rfl, hname⟩ := readString_front hkey
      refine ⟨Nat.max_le.2 ⟨hdepth, hdepths⟩, gap ++ (lead ++ ('"' :: (key' ++ (gap' ++ ':' :: front)) ++ front')), ?_,
        (hreads'.cons hlead (.mk hname hgap' hreads)).blank hgap⟩
      simp
end

/-! ## The first value of a text -/

/-- The first value of a text is read of a front of it. -/
theorem read_front {text : List Char} {o : Outline} (h : read text = (o, some rest)) :
    o.depth ≤ nesting ∧ ∃ front, text = front ++ rest ∧ Reads front o :=
  readValue_front h

/-- **A front that is not too deep** is read whatever follows. -/
theorem Reads.read_append {o : Outline} (h : Reads front o) (hdepth : o.depth ≤ nesting) {other : List Char}
    (hends : (∃ x, o = num x) → Ends other) : read (front ++ other) = (o, some other) := by
  refine h _ _ _ ?_ hdepth hends
  rw [List.length_append]
  omega

/-- At most one outline is read of a text. -/
theorem Reads.unique {o o' : Outline} {front' rest' : List Char} (h : Reads front o) (h' : Reads front' o')
    (heq : front ++ rest = front' ++ rest') (hends : (∃ x, o = num x) → Ends rest)
    (hends' : (∃ x, o' = num x) → Ends rest') : o = o' := by
  have hread := h (2 * front.length + 2 * front'.length) (o.depth + o'.depth) rest (by omega) (by omega) hends
  have hread' := h' (2 * front.length + 2 * front'.length) (o.depth + o'.depth) rest' (by omega) (by omega) hends'
  rw [heq, hread'] at hread
  exact (congrArg Prod.fst hread).symm

theorem closed_of_arr {items : List Outline} {closed : Bool} {value : Json}
    (h : (arr items closed).json? = some value) : closed = true := by
  cases closed with
  | true => rfl
  | false => simp [json?] at h

theorem closed_of_obj {members : List (String × Outline)} {closed : Bool} {value : Json}
    (h : (obj members closed).json? = some value) : closed = true := by
  cases closed with
  | true => rfl
  | false => simp [json?] at h

/-- A value is intact only when its end has been found. -/
theorem intact_of_json? {text : List Char} {o : Outline} {after : Option (List Char)} {value : Json}
    (h : readValue fuel room text = (o, after)) (hjson : o.json? = some value) : after.isSome = true := by
  cases fuel with
  | zero =>
    rw [readValue_zero] at h
    cases h
    cases hjson
  | succ fuel =>
    cases valueStep_of_readValue h with
    | blank hgap => cases hjson
    | @scalar _ _ body c _ _ hgap hblank harr hobj hgiven =>
      cases hscalar : readScalar c body with
      | none =>
        rw [hscalar] at hgiven
        cases hgiven
        cases hjson
      | some r =>
        rw [hscalar] at hgiven
        cases hgiven
        rfl
    | arr hgap hitems => exact closed_of_arr hjson
    | obj hgap hmembers => exact closed_of_obj hjson
    | deepArr hgap => exact closed_of_arr hjson
    | deepObj hgap => exact closed_of_obj hjson

end Outline
end Rulebook
