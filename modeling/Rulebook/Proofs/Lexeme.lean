import Rulebook.Json.Outline

/-!
# Blanks, words, strings and numerals at the front of a text

A lexeme is read off the front of a text: what is read is a front of the text, and the same is read of this front
whatever stands behind it. Only a numeral has no end of its own, so something must follow that ends it.

* `Outline.skipBlanks_front`, `Outline.dropWord_eq_some`: blanks and words.
* `Outline.Writes`, `Outline.readString_front`: a string is read character by character, each in any of its spellings.
* `Numeral.Ends`, `Numeral.read_front`: a numeral is read in front of a text that starts with no part of a numeral.
-/

namespace Rulebook
namespace Outline

/-! ## Blanks and words -/

/-- Characters that are all blanks. -/
def Blank (gap : List Char) : Prop := ∀ c ∈ gap, isBlank c = true

theorem blank_nil : Blank [] := fun _ h => absurd h List.not_mem_nil

/-- Blanks in front are skipped. -/
theorem skipBlanks_append (rest : List Char) : ∀ {gap : List Char}, Blank gap →
    skipBlanks (gap ++ rest) = skipBlanks rest
  | [], _ => rfl
  | c :: gap, h => by
    obtain ⟨hc, hgap⟩ := List.forall_mem_cons.1 h
    rw [List.cons_append, skipBlanks, if_pos hc, skipBlanks_append rest hgap]

/-- A text without a blank in front is left as it is. -/
theorem skipBlanks_cons {c : Char} (hc : isBlank c = false) (rest : List Char) :
    skipBlanks (c :: rest) = c :: rest := by
  rw [skipBlanks, if_neg (by simp [hc])]

/-- What is skipped are blanks. -/
theorem skipBlanks_front : ∀ text : List Char, ∃ gap, Blank gap ∧ text = gap ++ skipBlanks text
  | [] => ⟨[], blank_nil, rfl⟩
  | c :: rest => by
    unfold skipBlanks
    split
    · next hc =>
      obtain ⟨gap, hgap, hrest⟩ := skipBlanks_front rest
      exact ⟨c :: gap, List.forall_mem_cons.2 ⟨hc, hgap⟩, congrArg (c :: ·) hrest⟩
    · exact ⟨[], blank_nil, rfl⟩

/-- What is left has no blank in front. -/
theorem isBlank_of_skipBlanks {c : Char} {rest : List Char} : ∀ {text : List Char}, skipBlanks text = c :: rest →
    isBlank c = false
  | d :: text, h => by
    unfold skipBlanks at h
    split at h
    · exact isBlank_of_skipBlanks h
    · next hd =>
      cases h
      simpa using hd

/-- A text of blanks is skipped as a whole. -/
theorem skipBlanks_eq_nil {text : List Char} : skipBlanks text = [] ↔ Blank text := by
  constructor
  · intro h
    obtain ⟨gap, hgap, htext⟩ := skipBlanks_front text
    rw [h, List.append_nil] at htext
    exact htext ▸ hgap
  · intro h
    have hskip := skipBlanks_append [] h
    rwa [List.append_nil] at hskip

/-- A word is dropped from the front of a text. -/
theorem dropWord_eq_some : ∀ {word text rest : List Char}, dropWord word text = some rest ↔ text = word ++ rest
  | [], text, rest => by simp [dropWord]
  | w :: word, [], rest => by simp [dropWord]
  | w :: word, c :: text, rest => by
    unfold dropWord
    split
    · next hwc => rw [dropWord_eq_some, List.cons_append, List.cons.injEq, and_iff_right hwc.symm]
    · next hwc => simp [Ne.symm hwc]

/-- What stands for a word is given with what follows the word. -/
theorem map_dropWord_eq_some {α : Type} {x y : α} {word text rest : List Char}
    (h : (dropWord word text).map (fun rest => (x, rest)) = some (y, rest)) : y = x ∧ text = word ++ rest := by
  obtain ⟨after, hword, heq⟩ := Option.map_eq_some_iff.1 h
  cases heq
  exact ⟨rfl, dropWord_eq_some.1 hword⟩

/-! ## Strings -/

/-- A text that stands for a character inside a string. -/
def Writes (lead : List Char) (c : Char) : Prop :=
  ∀ rest, readString (lead ++ rest) = (readString rest).map fun r => (c :: r.1, r.2)

/-- A character that is neither a quote, nor a backslash, nor a control stands for itself. -/
theorem writes_plain {c : Char} (hquote : c ≠ '"') (hslash : c ≠ '\\') (hcontrol : ¬c.toNat < 0x20) :
    Writes [c] c := by
  intro rest
  simp only [List.cons_append, List.nil_append]
  rw [readString.eq_def]
  simp [hquote, hslash, hcontrol]

/-- A backslash and a letter. -/
theorem writes_short {e x : Char} (hu : e ≠ 'u') (hx : shortEscape? e = some x) : Writes ['\\', e] x := by
  intro rest
  simp only [List.cons_append, List.nil_append]
  rw [readString.eq_def]
  simp [hu, hx]

/-- A code of four digits. -/
theorem writes_code {h₁ h₂ h₃ h₄ : Char} {n : Nat} (hn : hex4? h₁ h₂ h₃ h₄ = some n)
    (hlow : ¬isLowSurrogate n = true) (hhigh : ¬isHighSurrogate n = true) :
    Writes ['\\', 'u', h₁, h₂, h₃, h₄] (Char.ofNat n) := by
  intro rest
  simp only [List.cons_append, List.nil_append]
  rw [readString.eq_def]
  simp [hn, hlow, hhigh]

/-- A pair of surrogate halves. -/
theorem writes_pair {h₁ h₂ h₃ h₄ l₁ l₂ l₃ l₄ : Char} {n m : Nat} (hn : hex4? h₁ h₂ h₃ h₄ = some n)
    (hlow : ¬isLowSurrogate n = true) (hhigh : isHighSurrogate n = true) (hm : hex4? l₁ l₂ l₃ l₄ = some m)
    (hm' : isLowSurrogate m = true) :
    Writes ['\\', 'u', h₁, h₂, h₃, h₄, '\\', 'u', l₁, l₂, l₃, l₄]
      (Char.ofNat (0x10000 + (n - 0xD800) * 0x400 + (m - 0xDC00))) := by
  intro rest
  simp only [List.cons_append, List.nil_append]
  rw [readString.eq_def]
  simp [hn, hlow, hhigh, hm, hm']

@[simp] theorem readString_quote (rest : List Char) : readString ('"' :: rest) = some ([], rest) := by
  rw [readString.eq_def]
  simp

/-- A character that is read in front is read there whatever follows. -/
theorem Writes.front {lead : List Char} {c : Char} (hw : Writes lead c) {text s rest : List Char}
    (h : (readString text).map (fun r => (c :: r.1, r.2)) = some (s, rest))
    (ih : ∀ {s rest}, readString text = some (s, rest) →
      ∃ front, text = front ++ rest ∧ ∀ other, readString (front ++ other) = some (s, other)) :
    ∃ front, lead ++ text = front ++ rest ∧ ∀ other, readString (front ++ other) = some (s, other) := by
  obtain ⟨⟨s', rest'⟩, hread, heq⟩ := Option.map_eq_some_iff.1 h
  cases heq
  obtain ⟨front, htext, hfront⟩ := ih hread
  refine ⟨lead ++ front, by rw [htext, List.append_assoc], fun other => ?_⟩
  rw [List.append_assoc, hw, hfront]
  rfl

/-- **A string is read off the front of a text**, whatever follows. -/
theorem readString_front {text s rest : List Char} (h : readString text = some (s, rest)) :
    ∃ front, text = front ++ rest ∧ ∀ other, readString (front ++ other) = some (s, other) := by
  fun_induction readString text generalizing s rest with
  | case2 rest =>
    cases h
    exact ⟨['"'], rfl, fun other => readString_quote other⟩
  | case7 _ _ _ _ n hn hlow hhigh _ _ _ _ _ m hm hm' _ ih =>
    exact (writes_pair hn hlow hhigh hm hm').front h ih
  | case10 _ _ _ _ _ n hn hlow hhigh _ ih => exact (writes_code hn hlow hhigh).front h ih
  | case13 _ _ hu _ hx _ ih => exact (writes_short hu hx).front h ih
  | case15 _ _ hquote hslash hcontrol ih => exact (writes_plain hquote hslash hcontrol).front h ih
  | _ => cases h

end Outline

/-! ## Numerals -/

namespace Numeral

/-- A text that does not go on with a digit. -/
def Digitless (rest : List Char) : Prop := ∀ c ∈ rest.head?, digit? c = none

/-- A text that goes on with neither a digit nor a point. -/
def Pointless (rest : List Char) : Prop := ∀ c ∈ rest.head?, digit? c = none ∧ c ≠ '.'

/-- A text in front of which a numeral ends: it goes on with neither a digit, nor a point, nor an exponent. -/
def Ends (rest : List Char) : Prop := ∀ c ∈ rest.head?, digit? c = none ∧ c ≠ '.' ∧ c ≠ 'e' ∧ c ≠ 'E'

theorem Pointless.digitless {rest : List Char} (h : Pointless rest) : Digitless rest := fun c hc => (h c hc).1

theorem Ends.pointless {rest : List Char} (h : Ends rest) : Pointless rest := fun c hc => ⟨(h c hc).1, (h c hc).2.1⟩

@[simp] theorem ends_nil : Ends [] := fun _ h => by cases h

theorem ends_cons {c : Char} (rest : List Char) (hc : digit? c = none ∧ c ≠ '.' ∧ c ≠ 'e' ∧ c ≠ 'E') :
    Ends (c :: rest) := fun _ h => by
  cases h
  exact hc

theorem pointless_cons {c : Char} (rest : List Char) (hc : digit? c = none ∧ c ≠ '.') : Pointless (c :: rest) :=
  fun _ h => by
    cases h
    exact hc

theorem digitless_cons {c : Char} (rest : List Char) (hc : digit? c = none) : Digitless (c :: rest) := fun _ h => by
  cases h
  exact hc

/-- No digits are read where none stand. -/
theorem spanDigits_of_digitless : ∀ {rest : List Char}, Digitless rest → spanDigits rest = ([], rest)
  | [], _ => rfl
  | c :: rest, h => by
    rw [spanDigits, h c rfl]

/-- Digits are read off the front of a text, as long as no more of them follow. -/
theorem spanDigits_front : ∀ {text rest : List Char} {ds : List Nat}, spanDigits text = (ds, rest) →
    ∃ front, text = front ++ rest ∧ ∀ other, Digitless other → spanDigits (front ++ other) = (ds, other)
  | [], _, _, h => by
    cases h
    exact ⟨[], rfl, fun _ => spanDigits_of_digitless⟩
  | c :: text, rest, ds, h => by
    rw [spanDigits] at h
    split at h
    · next d hd =>
      cases h
      obtain ⟨front, htext, hfront⟩ := spanDigits_front (rfl : spanDigits text = _)
      refine ⟨c :: front, congrArg (c :: ·) htext, fun other ho => ?_⟩
      rw [List.cons_append, spanDigits, hd, hfront other ho]
    · cases h
      exact ⟨[], rfl, fun _ => spanDigits_of_digitless⟩

/-- No fraction is read where no point stands. -/
theorem readFraction_of_pointless {rest : List Char} (h : Pointless rest) : readFraction rest = some (none, rest) := by
  unfold readFraction
  split
  · exact absurd rfl (h '.' rfl).2
  · rfl

/-- A fraction is read off the front of a text, as long as neither a digit nor a point follows. -/
theorem readFraction_front {text rest : List Char} {fraction : Option (List Nat)}
    (h : readFraction text = some (fraction, rest)) : ∃ front, text = front ++ rest ∧
      ∀ other, Pointless other →
        Digitless (front ++ other) ∧ readFraction (front ++ other) = some (fraction, other) := by
  unfold readFraction at h
  split at h
  · next digits =>
    split at h
    · cases h
    · next ds r hne hspan =>
      cases h
      obtain ⟨front, htext, hfront⟩ := spanDigits_front hspan
      refine ⟨'.' :: front, congrArg ('.' :: ·) htext, fun other ho => ⟨digitless_cons _ (by decide), ?_⟩⟩
      rw [List.cons_append, readFraction, hfront other ho.digitless]
      cases ds with
      | nil => exact absurd rfl hne
      | cons => rfl
  · cases h
    exact ⟨[], rfl, fun other ho => ⟨ho.digitless, readFraction_of_pointless ho⟩⟩

/-- Where digits are read, a digit stands in front. -/
theorem digit?_of_spanDigits {c : Char} {text rest : List Char} {d : Nat} {ds : List Nat}
    (h : spanDigits (c :: text) = (d :: ds, rest)) : digit? c = some d := by
  rw [spanDigits] at h
  split at h
  · next hd =>
    cases h
    exact hd
  · cases h

/-- Where digits are read off the front of a text, the front starts with a digit. -/
theorem spanDigits_cons_front {text rest : List Char} {d : Nat} {ds : List Nat}
    (h : spanDigits text = (d :: ds, rest)) : ∃ c front, digit? c = some d ∧ text = c :: (front ++ rest) ∧
      ∀ other, Digitless other → spanDigits (c :: (front ++ other)) = (d :: ds, other) := by
  obtain ⟨front, htext, hfront⟩ := spanDigits_front h
  cases front with
  | nil =>
    have hnone := hfront [] ends_nil.pointless.digitless
    cases hnone
  | cons c front => exact ⟨c, front, digit?_of_spanDigits (htext ▸ h), htext, hfront⟩

/-- A sign in front of digits, and whether it is a minus. -/
inductive Signed : List Char → Bool → Prop
  | none : Signed [] false
  | plus : Signed ['+'] false
  | minus : Signed ['-'] true

/-- The sign in front of an exponent, and the text behind it. -/
def splitSign : List Char → Bool × List Char
  | '+' :: rest => (false, rest)
  | '-' :: rest => (true, rest)
  | rest => (false, rest)

theorem splitSign_signed (text : List Char) :
    ∃ sign, Signed sign (splitSign text).1 ∧ text = sign ++ (splitSign text).2 := by
  unfold splitSign
  split
  · exact ⟨['+'], .plus, rfl⟩
  · exact ⟨['-'], .minus, rfl⟩
  · exact ⟨[], .none, rfl⟩

theorem splitSign_append {sign : List Char} {negative : Bool} (h : Signed sign negative) {c d} (text : List Char)
    (hc : digit? c = some d) : splitSign (sign ++ c :: text) = (negative, c :: text) := by
  cases h with
  | plus => rfl
  | minus => rfl
  | none =>
    rw [List.nil_append, splitSign.eq_def]
    split
    · next heq =>
      cases heq
      cases hc
    · next heq =>
      cases heq
      cases hc
    · rfl

/-- No exponent is read where its letter does not stand. -/
theorem readExponent_of_ends : ∀ {rest : List Char}, Ends rest → readExponent rest = some (none, rest)
  | [], _ => rfl
  | c :: rest, h => by
    rw [readExponent.eq_def]
    exact if_neg (by simpa using (h c rfl).2.2)

/-- An exponent is a letter, a sign and digits. -/
theorem readExponent_letter {c : Char} (hc : c = 'e' ∨ c = 'E') (text : List Char) :
    readExponent (c :: text) = match spanDigits (splitSign text).2 with
      | ([], _) => none
      | (ds, rest) => some (some ((splitSign text).1, ds), rest) := by
  rw [readExponent.eq_def]
  exact if_pos hc

/-- An exponent is read off the front of a text in front of which a numeral can end. -/
theorem readExponent_front {text rest : List Char} {exponent : Option (Bool × List Nat)}
    (h : readExponent text = some (exponent, rest)) : ∃ front, text = front ++ rest ∧
      ∀ other, Ends other → Pointless (front ++ other) ∧ readExponent (front ++ other) = some (exponent, other) := by
  cases text with
  | nil =>
    cases h
    exact ⟨[], rfl, fun other ho => ⟨ho.pointless, readExponent_of_ends ho⟩⟩
  | cons c text =>
    by_cases hc : c = 'e' ∨ c = 'E'
    · obtain ⟨sign, hsign, htext⟩ := splitSign_signed text
      rw [readExponent_letter hc] at h
      cases hspan : spanDigits (splitSign text).2 with
      | mk ds r =>
        rw [hspan] at h
        cases ds with
        | nil => cases h
        | cons d ds =>
          cases h
          obtain ⟨c', front, hdigit, hfront, hread⟩ := spanDigits_cons_front hspan
          refine ⟨c :: (sign ++ c' :: front), by rw [htext, hfront]; simp, fun other ho => ⟨?_, ?_⟩⟩
          · exact pointless_cons _ (by rcases hc with rfl | rfl <;> decide)
          · have hsplit := splitSign_append hsign (front ++ other) hdigit
            simp only [List.cons_append, List.append_assoc, readExponent_letter hc, hsplit,
              hread other ho.pointless.digitless]
    · rw [readExponent.eq_def] at h
      have heq := (if_neg hc).symm.trans h
      cases heq
      exact ⟨[], rfl, fun other ho => ⟨ho.pointless, readExponent_of_ends ho⟩⟩

/-- Whole digits: one at least, and no zero in front of another. -/
def Whole (ds : List Nat) : Prop := ds ≠ [] ∧ ∀ d rest, ds ≠ 0 :: d :: rest

/-- Reads a numeral behind its sign. -/
def readUnsigned (negative : Bool) (text : List Char) : Option (Numeral × List Char) :=
  match spanDigits text with
  | ([], _) => none
  | (0 :: _ :: _, _) => none
  | (whole, rest) => do
    let (fraction, rest) ← readFraction rest
    let (exponent, rest) ← readExponent rest
    return (⟨negative, whole, fraction, exponent⟩, rest)

theorem read_minus (text : List Char) : read ('-' :: text) = readUnsigned true text := rfl

theorem read_of_ne {c : Char} (hc : c ≠ '-') (text : List Char) :
    read (c :: text) = readUnsigned false (c :: text) := by
  unfold read
  split
  next negative body heq =>
  split at heq
  · next hh =>
    cases hh
    exact absurd rfl hc
  · cases heq
    rfl

/-- A numeral behind its sign is whole digits, a fraction and an exponent. -/
theorem readUnsigned_eq_some {negative : Bool} {text rest : List Char} {n : Numeral} :
    readUnsigned negative text = some (n, rest) ↔ ∃ r₁ r₂, spanDigits text = (n.whole, r₁) ∧ Whole n.whole ∧
      readFraction r₁ = some (n.fraction, r₂) ∧ readExponent r₂ = some (n.exponent, rest) ∧ n.negative = negative := by
  obtain ⟨minus, whole, fraction, exponent⟩ := n
  unfold readUnsigned
  cases hspan : spanDigits text with
  | mk ds r₁ =>
    constructor
    · intro h
      split at h
      · cases h
      · cases h
      · next hnil hzero heq =>
        cases heq
        obtain ⟨⟨fraction, r₂⟩, hfraction, h⟩ := Option.bind_eq_some_iff.1 h
        obtain ⟨⟨exponent, r₃⟩, hexponent, h⟩ := Option.bind_eq_some_iff.1 h
        cases h
        exact ⟨r₁, r₂, rfl, ⟨hnil, fun d ds => hzero d ds⟩, hfraction, hexponent, rfl⟩
    · rintro ⟨r₁', r₂, heq, ⟨hnil, hzero⟩, hfraction, hexponent, rfl⟩
      cases heq
      split
      · next heq =>
        cases heq
        exact absurd rfl hnil
      · next heq =>
        cases heq
        exact absurd rfl (hzero _ _)
      · next heq =>
        cases heq
        simp [hfraction, hexponent]

/-- An unsigned numeral is read off the front of a text, and starts with a digit. -/
theorem readUnsigned_front {negative : Bool} {text rest : List Char} {n : Numeral}
    (h : readUnsigned negative text = some (n, rest)) : ∃ c front d, digit? c = some d ∧ text = c :: (front ++ rest) ∧
      ∀ other, Ends other → readUnsigned negative (c :: (front ++ other)) = some (n, other) := by
  obtain ⟨r₁, r₂, hspan, hwhole, hfraction, hexponent, hnegative⟩ := readUnsigned_eq_some.1 h
  obtain ⟨d, ds, hds⟩ := List.exists_cons_of_ne_nil hwhole.1
  obtain ⟨c, digits, hc, rfl, hdigits⟩ := spanDigits_cons_front (hds ▸ hspan)
  obtain ⟨tail, rfl, htail⟩ := readFraction_front hfraction
  obtain ⟨last, rfl, hlast⟩ := readExponent_front hexponent
  refine ⟨c, digits ++ (tail ++ last), d, hc, by simp, fun other ho => readUnsigned_eq_some.2 ?_⟩
  obtain ⟨hpoint, hread⟩ := hlast other ho
  obtain ⟨hdigit, hread'⟩ := htail _ hpoint
  refine ⟨_, _, ?_, hwhole, hread', hread, hnegative⟩
  rw [List.append_assoc, List.append_assoc, hds]
  exact hdigits _ hdigit

/-- A digit is no minus. -/
theorem ne_minus {c : Char} {d : Nat} (hc : digit? c = some d) : c ≠ '-' := by
  rintro rfl
  cases hc

/-- **A numeral is read off the front of a text** in front of which it can end. -/
theorem read_front {text rest : List Char} {n : Numeral} (h : read text = some (n, rest)) :
    ∃ c front, (c = '-' ∨ ∃ d, digit? c = some d) ∧ text = c :: (front ++ rest) ∧
      ∀ other, Ends other → read (c :: (front ++ other)) = some (n, other) := by
  cases text with
  | nil => cases h
  | cons c text =>
    by_cases hc : c = '-'
    · subst hc
      rw [read_minus] at h
      obtain ⟨c, front, -, -, rfl, hfront⟩ := readUnsigned_front h
      exact ⟨'-', c :: front, .inl rfl, rfl, hfront⟩
    · rw [read_of_ne hc] at h
      obtain ⟨c', front, d, hd, heq, hfront⟩ := readUnsigned_front h
      refine ⟨c', front, .inr ⟨d, hd⟩, heq, fun other ho => ?_⟩
      rw [read_of_ne (ne_minus hd)]
      exact hfront other ho

end Numeral
end Rulebook
