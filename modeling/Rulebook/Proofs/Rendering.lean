import Mathlib.Data.Nat.Digits.Defs
import Rulebook.Json.Text
import Rulebook.Proofs.FlatForm
import Rulebook.Proofs.Front

/-!
# What is written is read

A value is written in compact form or indented. Either form is read as the outline that has this value, whatever follows
it. Nothing is said of the texts of floats: a value is read back when the floats in it are (`Json.FloatsReread`).

* `Number.rereads_int`, `Outline.readString_quoted`: integers and strings are read back from their texts.
* `Outline.reads_chars`, `Outline.reads_prettyChars`: so are values, in both forms.
* `Outline.json?_ofJson`, `Outline.depth_ofJson`: the outline of a value has this value, and its depth.
* `Description.ofOutline_ofJson`: a description that is read from a value is read from the outline of the value.
-/

namespace Rulebook

open Fallible

/-! ## Numbers -/

namespace Numeral

theorem digit?_of_isDigit {c : Char} (h : c.isDigit = true) : digit? c = some (c.toNat - 48) := by
  rw [digit?, if_pos]
  simpa [Char.isDigit, Char.le_def] using h

/-- Digits are read one by one. -/
theorem spanDigits_of_isDigit : ∀ {text : List Char}, (∀ c ∈ text, c.isDigit = true) →
    spanDigits text = (text.map fun c => c.toNat - 48, [])
  | [], _ => rfl
  | c :: text, h => by
    obtain ⟨hc, htext⟩ := List.forall_mem_cons.1 h
    rw [spanDigits, digit?_of_isDigit hc, spanDigits_of_isDigit htext]
    rfl

/-- The digits of a number have its value. -/
theorem digitsValue_toDigits (n : Nat) : digitsValue ((Nat.toDigits 10 n).map fun c => c.toNat - 48) = n := by
  have hvalue : Nat.ofDigitChars 10 (Nat.toDigits 10 n) 0 = n := Nat.ofDigitChars_ten_toDigits
  rw [Nat.ofDigitChars_eq_foldl] at hvalue
  rw [digitsValue, List.foldl_map]
  simpa [Nat.mul_comm] using hvalue

/-- Only zero is written with a zero in front. -/
theorem head_toDigits (n : Nat) (hn : n ≠ 0) : ∃ c rest, Nat.toDigits 10 n = c :: rest ∧ c.toNat - 48 ≠ 0 := by
  induction n using Nat.strongRecOn with
  | ind n ih =>
    rw [Nat.toDigits_eq_if (by decide)]
    split
    · next hlt =>
      have hdigit : ∀ k < 10, k ≠ 0 → (Nat.digitChar k).toNat - 48 ≠ 0 := by decide
      exact ⟨_, [], rfl, hdigit n hlt hn⟩
    · next hge =>
      obtain ⟨c, rest, heq, hc⟩ := ih (n / 10) (by omega) (by omega)
      exact ⟨c, rest ++ [Nat.digitChar (n % 10)], by rw [heq]; rfl, hc⟩

/-- The digits of a number are whole digits. -/
theorem whole_toDigits (n : Nat) : Whole ((Nat.toDigits 10 n).map fun c => c.toNat - 48) := by
  refine ⟨by simp, fun d rest h => ?_⟩
  by_cases hn : n = 0
  · subst hn
    cases h
  · obtain ⟨c, tail, heq, hc⟩ := head_toDigits n hn
    rw [heq] at h
    exact hc (List.cons.inj h).1

/-- The digits of a number are read as its whole digits. -/
theorem readUnsigned_toDigits (negative : Bool) (n : Nat) : readUnsigned negative (Nat.toDigits 10 n) =
    some (⟨negative, (Nat.toDigits 10 n).map fun c => c.toNat - 48, none, none⟩, []) := by
  refine readUnsigned_eq_some.2 ⟨[], [], ?_, whole_toDigits n, rfl, rfl, rfl⟩
  exact spanDigits_of_isDigit fun c hc => Nat.isDigit_of_mem_toDigits (by decide) (by decide) hc

end Numeral

namespace Number

/-- A number that is read back from its text. -/
def Rereads (x : Number) : Prop := ∃ n, Numeral.read x.text = some (n, []) ∧ n.value = some x

/-- An unsigned numeral that starts with a digit is read as it is. -/
theorem read_toDigits (n : Nat) : Numeral.read (Nat.toDigits 10 n) =
    some (⟨false, (Nat.toDigits 10 n).map fun c => c.toNat - 48, none, none⟩, []) := by
  have hread := Numeral.readUnsigned_toDigits false n
  cases hdigits : Nat.toDigits 10 n with
  | nil => exact absurd hdigits Nat.toDigits_ne_nil
  | cons c rest =>
    have hc : c.isDigit = true :=
      Nat.isDigit_of_mem_toDigits (b := 10) (n := n) (by decide) (by decide) (hdigits ▸ List.mem_cons_self)
    rw [Numeral.read_of_ne (Numeral.ne_minus (Numeral.digit?_of_isDigit hc)), ← hdigits, hread]

/-- A numeral without fraction and exponent has an integer as its value, if it fits and is no negative zero. -/
theorem value_of_whole {negative : Bool} {ds : List Nat} {value : Int}
    (hzero : ¬(negative = true ∧ Numeral.digitsValue ds = 0))
    (hvalue : (if negative then -(Numeral.digitsValue ds : Int) else Numeral.digitsValue ds) = value)
    (fits : -9223372036854775808 ≤ value ∧ value < 18446744073709551616) :
    Numeral.value ⟨negative, ds, none, none⟩ = some (int value fits) := by
  have hint : ofInt? value = some (int value fits) := dif_pos fits
  simp only [Numeral.value, if_neg hzero, hvalue, hint]

/-- **An integer is read back from its text.** -/
theorem rereads_int (value : Int) (fits : -9223372036854775808 ≤ value ∧ value < 18446744073709551616) :
    (int value fits).Rereads := by
  have hdigits := Numeral.digitsValue_toDigits value.natAbs
  by_cases hneg : value < 0
  · have hvalue : -(value.natAbs : Int) = value := by omega
    have hzero : value.natAbs ≠ 0 := by omega
    refine ⟨⟨true, (Nat.toDigits 10 value.natAbs).map fun c => c.toNat - 48, none, none⟩, ?_, ?_⟩
    · rw [text, if_pos hneg, Numeral.read_minus, Numeral.readUnsigned_toDigits]
    · exact value_of_whole (by simp [hdigits, hzero]) (by simpa [hdigits] using hvalue) fits
  · have hvalue : (value.natAbs : Int) = value := by omega
    refine ⟨⟨false, (Nat.toDigits 10 value.natAbs).map fun c => c.toNat - 48, none, none⟩, ?_, ?_⟩
    · rw [text, if_neg hneg, read_toDigits]
    · exact value_of_whole (by simp) (by simpa [hdigits] using hvalue) fits

end Number

/-! ## Strings -/

namespace Outline

open Json (escaped quoted)

theorem hex4?_control :
    ∀ n < 0x20, hex4? '0' '0' (Json.hexDigit (n / 16)) (Json.hexDigit (n % 16)) = some n := by
  decide

/-- A control character is written as an escape. -/
theorem writes_control {c : Char} (hlow : c.toNat < 0x20) : Writes
    (if c.toNat = 0x08 then ['\\', 'b']
    else if c.toNat = 0x09 then ['\\', 't']
    else if c.toNat = 0x0a then ['\\', 'n']
    else if c.toNat = 0x0c then ['\\', 'f']
    else if c.toNat = 0x0d then ['\\', 'r']
    else ['\\', 'u', '0', '0', Json.hexDigit (c.toNat / 16), Json.hexDigit (c.toNat % 16)]) c := by
  have hchar : ∀ {n : Nat}, c.toNat = n → c = Char.ofNat n := fun h => by rw [← h, Char.ofNat_toNat]
  split
  · next hc => exact hchar hc ▸ writes_short (by decide) (by decide)
  split
  · next hc => exact hchar hc ▸ writes_short (by decide) (by decide)
  split
  · next hc => exact hchar hc ▸ writes_short (by decide) (by decide)
  split
  · next hc => exact hchar hc ▸ writes_short (by decide) (by decide)
  split
  · next hc => exact hchar hc ▸ writes_short (by decide) (by decide)
  · have hapart : ∀ n < 0x20, ¬isLowSurrogate n = true ∧ ¬isHighSurrogate n = true := by decide
    have hwrites := writes_code (hex4?_control _ hlow) (hapart _ hlow).1 (hapart _ hlow).2
    rwa [Char.ofNat_toNat] at hwrites

/-- A character is written so that it is read. -/
theorem writes_escaped (c : Char) : Writes (escaped c) c := by
  unfold escaped
  split
  · next hc =>
    subst hc
    exact writes_short (by decide) (by decide)
  split
  · next hc =>
    subst hc
    exact writes_short (by decide) (by decide)
  split
  · next hlow => exact writes_control hlow
  · next hquote hslash hcontrol => exact writes_plain hquote hslash hcontrol

/-- A quoted string is read behind its opening quote. -/
theorem readString_quoted (s other : List Char) : readString (s.flatMap escaped ++ '"' :: other) = some (s, other) := by
  induction s with
  | nil => exact readString_quote other
  | cons c s ih =>
    rw [List.flatMap_cons, List.append_assoc, writes_escaped c, ih]
    rfl

end Outline

/-! ## Values -/

namespace Json

mutual
/-- Every float in the value is read back from its text. -/
def FloatsReread : Json → Prop
  | num (.float x) => (Number.float x).Rereads
  | arr items => FloatsRereadItems items
  | obj members => FloatsRereadMembers members
  | _ => True

/-- Every float in the listed values is read back from its text. -/
def FloatsRereadItems : List Json → Prop
  | [] => True
  | item :: rest => FloatsReread item ∧ FloatsRereadItems rest

/-- Every float in the values of the listed members is read back from its text. -/
def FloatsRereadMembers : List (String × Json) → Prop
  | [] => True
  | (_, value) :: rest => FloatsReread value ∧ FloatsRereadMembers rest
end

end Json

namespace Outline

open Json (chars charsItems charsMembers prettyChars prettyItems prettyMembers newline quoted)

mutual
/-- The outline of a value. -/
def ofJson : Json → Outline
  | .null => null
  | .bool value => bool value
  | .num value => num value
  | .str value => str value
  | .arr items => arr (ofJsonItems items) true
  | .obj members => obj (ofJsonMembers members) true

/-- The outlines of listed values. -/
def ofJsonItems : List Json → List Outline
  | [] => []
  | item :: rest => ofJson item :: ofJsonItems rest

/-- The outlines of the values of listed members. -/
def ofJsonMembers : List (String × Json) → List (String × Outline)
  | [] => []
  | (name, value) :: rest => (name, ofJson value) :: ofJsonMembers rest
end

/-- A number that is read back is read off the front of a text. -/
theorem reads_num {x : Number} (h : x.Rereads) : Reads x.text (num x) := by
  obtain ⟨n, hread, hvalue⟩ := h
  obtain ⟨c, front, hc, htext, -⟩ := Numeral.read_front hread
  rw [List.append_nil] at htext
  rw [htext] at hread ⊢
  have hapart : ∀ k ∈ [' ', '\n', '\t', '\r', '[', '\x7b', 'n', 't', 'f', '"'], c ≠ k := by
    rintro k hk rfl
    rcases hc with rfl | ⟨d, hd⟩
    · revert hk
      decide
    · have hnone : ∀ k ∈ [' ', '\n', '\t', '\r', '[', '\x7b', 'n', 't', 'f', '"'], Numeral.digit? k = none := by
        simp [Numeral.digit?]
      rw [hnone c hk] at hd
      cases hd
  have hblank : isBlank c = false := by
    simp [isBlank, hapart]
  refine reads_scalar hblank (hapart _ (by simp)) (hapart _ (by simp)) ?_
  simp [readScalar, hapart, hread, hvalue]

theorem reads_str (s : String) : Reads (quoted s) (str s) := by
  have hread := readString_quoted s.toList []
  refine reads_scalar (by decide) (by decide) (by decide) ?_
  simp [readScalar, hread]

/-- A member is written as its quoted name, a colon and its value, with blanks around the colon or without. -/
theorem readsMember_quoted (name : String) {value : Outline} {gap front : List Char} (hgap : Blank gap)
    (h : Reads front value) : ReadsMember (quoted name ++ ':' :: (gap ++ front)) (name, value) := by
  have hname : ∀ other,
      readString ((name.toList.flatMap Json.escaped ++ ['"']) ++ other) = some (name.toList, other) := by
    intro other
    rw [List.append_assoc]
    exact readString_quoted name.toList other
  have hmember := ReadsMember.mk hname blank_nil (h.blank hgap)
  rw [String.ofList_toList] at hmember
  exact hmember

mutual
/-- **The compact form of a value** is read as its outline. -/
theorem reads_chars : ∀ {j : Json}, j.FloatsReread → Reads (chars j) (ofJson j)
  | .null, _ => reads_scalar (by decide) (by decide) (by decide) rfl
  | .bool true, _ => reads_scalar (by decide) (by decide) (by decide) rfl
  | .bool false, _ => reads_scalar (by decide) (by decide) (by decide) rfl
  | .num (.int value fits), _ => reads_num (Number.rereads_int value fits)
  | .num (.float x), h => reads_num h
  | .str s, _ => reads_str s
  | .arr [], _ => reads_arr (readsItems_close true)
  | .arr (item :: rest), h => reads_arr (readsItems_chars .first (List.cons_ne_nil item rest) h)
  | .obj [], _ => reads_obj (readsMembers_close true)
  | .obj (member :: rest), h => reads_obj (readsMembers_chars .first (List.cons_ne_nil member rest) h)

theorem readsItems_chars : ∀ {items : List Json} {first : Bool} {lead : List Char}, Separator first lead → items ≠ [] →
    Json.FloatsRereadItems items → ReadsItems first (lead ++ (charsItems items ++ [']'])) (ofJsonItems items)
  | [], _, _, _, hne, _ => absurd rfl hne
  | [item], _, _, hlead, _, h => .cons hlead (reads_chars h.1) (readsItems_close false)
  | item :: next :: rest, first, lead, hlead, _, h => by
    have hrest := readsItems_chars (.comma blank_nil) (List.cons_ne_nil next rest) h.2
    have hall := ReadsItems.cons hlead (reads_chars h.1) hrest
    simpa [charsItems, ofJsonItems] using hall

theorem readsMembers_chars : ∀ {members : List (String × Json)} {first : Bool} {lead : List Char},
    Separator first lead → members ≠ [] → Json.FloatsRereadMembers members →
    ReadsMembers first (lead ++ (charsMembers members ++ ['\x7d'])) (ofJsonMembers members)
  | [], _, _, _, hne, _ => absurd rfl hne
  | [(name, value)], _, _, hlead, _, h => by
    have hmember := readsMember_quoted name blank_nil (reads_chars h.1)
    exact ReadsMembers.cons hlead hmember (readsMembers_close false)
  | (name, value) :: next :: rest, first, lead, hlead, _, h => by
    have hmember := readsMember_quoted name blank_nil (reads_chars h.1)
    have hrest := readsMembers_chars (.comma blank_nil) (List.cons_ne_nil next rest) h.2
    have hall := ReadsMembers.cons hlead hmember hrest
    simpa [charsMembers, ofJsonMembers] using hall
end

theorem blank_space : Blank [' '] := by
  simp [Blank, isBlank]

theorem blank_newline (level : Nat) : Blank (newline level) := by
  refine List.forall_mem_cons.2 ⟨by decide, fun c hc => ?_⟩
  rw [(List.mem_replicate.1 hc).2]
  decide

/-- A member may stand behind blanks. -/
theorem ReadsMember.cons_blank {first : Bool} {lead gap front rest : List Char} {member : String × Outline}
    {members : List (String × Outline)} (hmember : ReadsMember front member) (hlead : Separator first lead)
    (hgap : Blank gap) (hrest : ReadsMembers false rest members) :
    ReadsMembers first (lead ++ (gap ++ (front ++ rest))) (member :: members) := by
  cases hlead with
  | first =>
    rw [List.nil_append]
    exact (ReadsMembers.cons .first hmember hrest).blank hgap
  | @comma gap' hgap' =>
    have hboth : Blank (gap' ++ gap) := fun c hc => (List.mem_append.1 hc).elim (hgap' c) (hgap c)
    simpa using ReadsMembers.cons (.comma hboth) hmember hrest

mutual
/-- **The indented form of a value** is read as its outline. -/
theorem reads_prettyChars : ∀ {j : Json} (level : Nat), j.FloatsReread → Reads (prettyChars level j) (ofJson j)
  | .null, level, h | .bool _, level, h | .num _, level, h | .str _, level, h => by
    rw [prettyChars]
    · exact reads_chars h
    all_goals simp
  | .arr [], _, _ => reads_arr (readsItems_close true)
  | .arr (item :: rest), level, h => by
    have hitems := readsItems_prettyChars (level + 1) .first (blank_newline level) (List.cons_ne_nil item rest) h
    simpa [prettyChars, ofJson] using reads_arr hitems
  | .obj [], _, _ => reads_obj (readsMembers_close true)
  | .obj (member :: rest), level, h => by
    have hmembers := readsMembers_prettyChars (level + 1) .first (blank_newline level) (List.cons_ne_nil member rest) h
    simpa [prettyChars, ofJson] using reads_obj hmembers

theorem readsItems_prettyChars : ∀ {items : List Json} {first : Bool} {lead gap : List Char} (level : Nat),
    Separator first lead → Blank gap → items ≠ [] → Json.FloatsRereadItems items →
    ReadsItems first (lead ++ (prettyItems level items ++ (gap ++ [']']))) (ofJsonItems items)
  | [], _, _, _, _, _, _, hne, _ => absurd rfl hne
  | [item], _, _, _, level, hlead, hgap, _, h => by
    have hitem := (reads_prettyChars level h.1).blank (blank_newline level)
    exact ReadsItems.cons hlead hitem ((readsItems_close false).blank hgap)
  | item :: next :: rest, _, _, _, level, hlead, hgap, _, h => by
    have hitem := (reads_prettyChars level h.1).blank (blank_newline level)
    have hrest := readsItems_prettyChars level (.comma blank_nil) hgap (List.cons_ne_nil next rest) h.2
    simpa [prettyItems, ofJsonItems] using ReadsItems.cons hlead hitem hrest

theorem readsMembers_prettyChars : ∀ {members : List (String × Json)} {first : Bool} {lead gap : List Char}
    (level : Nat), Separator first lead → Blank gap → members ≠ [] → Json.FloatsRereadMembers members →
    ReadsMembers first (lead ++ (prettyMembers level members ++ (gap ++ ['\x7d']))) (ofJsonMembers members)
  | [], _, _, _, _, _, _, hne, _ => absurd rfl hne
  | [(name, value)], _, _, _, level, hlead, hgap, _, h => by
    have hmember := readsMember_quoted name blank_space (reads_prettyChars level h.1)
    have hclose := (readsMembers_close false).blank hgap
    simpa [prettyMembers, ofJsonMembers] using hmember.cons_blank hlead (blank_newline level) hclose
  | (name, value) :: next :: rest, _, _, _, level, hlead, hgap, _, h => by
    have hmember := readsMember_quoted name blank_space (reads_prettyChars level h.1)
    have hrest := readsMembers_prettyChars level (.comma blank_nil) hgap (List.cons_ne_nil next rest) h.2
    simpa [prettyMembers, ofJsonMembers] using hmember.cons_blank hlead (blank_newline level) hrest
end

/-! ## The outline of a value -/

mutual
theorem depth_ofJson : ∀ j : Json, (ofJson j).depth = j.depth
  | .null | .bool _ | .num _ | .str _ => rfl
  | .arr items => congrArg (· + 1) (depthItems_ofJsonItems items)
  | .obj members => congrArg (· + 1) (depthMembers_ofJsonMembers members)

theorem depthItems_ofJsonItems : ∀ items : List Json, depthItems (ofJsonItems items) = Json.depthItems items
  | [] => rfl
  | item :: rest => by
    rw [ofJsonItems, depthItems, Json.depthItems, depth_ofJson item, depthItems_ofJsonItems rest]

theorem depthMembers_ofJsonMembers : ∀ members : List (String × Json),
    depthMembers (ofJsonMembers members) = Json.depthMembers members
  | [] => rfl
  | (name, value) :: rest => by
    rw [ofJsonMembers, depthMembers, Json.depthMembers, depth_ofJson value, depthMembers_ofJsonMembers rest]
end

mutual
/-- The outline of a value that holds each name once has this value. -/
theorem json?_ofJson : ∀ {j : Json}, j.Distinct → (ofJson j).json? = some j
  | .null, _ | .bool _, _ | .num _, _ | .str _, _ => rfl
  | .arr items, h => by
    simp [ofJson, json?, jsonItems?_ofJsonItems h]
  | .obj members, h => by
    simp [ofJson, json?, jsonMembers?_ofJsonMembers h.2, Table.ofList_eq_self h.1]

theorem jsonItems?_ofJsonItems : ∀ {items : List Json}, Json.DistinctItems items →
    jsonItems? (ofJsonItems items) = some items
  | [], _ => rfl
  | item :: rest, h => by
    rw [ofJsonItems, jsonItems?, json?_ofJson h.1, jsonItems?_ofJsonItems h.2]

theorem jsonMembers?_ofJsonMembers : ∀ {members : List (String × Json)}, Json.DistinctMembers members →
    jsonMembers? (ofJsonMembers members) = some members
  | [], _ => rfl
  | (name, value) :: rest, h => by
    rw [ofJsonMembers, jsonMembers?, json?_ofJson h.1, jsonMembers?_ofJsonMembers h.2]
end

end Outline

/-! ## Descriptions -/

namespace Description

/-- A type that is read from a value is read from its outline. -/
theorem typeOfOutline_ofJson {j : Json} {type : TypeTag} (h : typeOfJson j = .ok type) :
    typeOfOutline (.ofJson j) = .ok type := by
  unfold typeOfJson at h
  split at h
  · exact congrArg (Except.mapError (TextError.invalid [])) h
  · next name value =>
    obtain ⟨tag, hname, h⟩ := bind_eq_ok.1 h
    split at h
    · cases h
      simp [Outline.ofJson, Outline.ofJsonMembers, typeOfOutline, hname]
    · cases h
  · cases h
  · cases h

mutual
/-- **A description that is read from a value** is read from its outline, when every name stands once. -/
theorem ofOutline_ofJson : ∀ {j : Json} {d : Description}, j.Distinct → ofJson j = .ok d →
    ofOutline (.ofJson j) = .ok d
  | .obj members, ⟨type, directives, properties⟩, hj, h => by
    have hyields := (ofJson_obj hj.1).1 h
    have hread := @ofOutlineMembers_ofJson members {} ⟨type, directives, properties⟩ hj.1 hj.2 (by simp) (by simp)
      (by simp) hyields
    rw [Outline.ofJson, ofOutline, hread, Table.ofList_eq_self (flat_of_ofJson hj.1 hyields).1]
  | .null, _, _, h | .bool _, _, _, h | .num _, _, _, h | .str _, _, _, h | .arr _, _, _, h => by simp [ofJson] at h

/-- What the members of a node yield is read from their outlines. A structural member is still to come at most while
none of its name has been read. -/
theorem ofOutlineMembers_ofJson : ∀ {members : List (String × Json)} {reading : Reading} {d : Description},
    Table.Distinct members → Json.DistinctMembers members →
    ("type" ∈ Table.names members → reading.parts.type = none) →
    ("properties" ∈ Table.names members → reading.sawProperties = false) →
    (reading.sawProperties = false → reading.parts.properties = none) →
    reading.parts.Yields members d →
    ofOutlineMembers reading true (Outline.ofJsonMembers members) =
      .ok { d with directives := Table.ofList d.directives }
  | [], reading, d, _, _, _, _, _, h => by
    refine ofOutlineMembers_nil_eq_ok.2 ⟨rfl, Parts.finish_eq_ok.2 ⟨h.type, h.properties, ?_⟩⟩
    rw [h.directives]
    simp [Table.without]
  | (name, value) :: rest, reading, d, hnames, hvalues, htype, hproperties, hnone, h => by
    obtain ⟨hname, hrest⟩ := List.nodup_cons.1 hnames
    have hlater : ∀ key, key ∈ Table.names rest → key ∈ Table.names ((name, value) :: rest) :=
      fun key hkey => List.mem_cons_of_mem _ hkey
    rw [Outline.ofJsonMembers]
    by_cases hkey : name = "type"
    · subst hkey
      obtain ⟨tag, hread, hyields⟩ := (Parts.yields_type hname).1 h
      refine ofOutlineMembers_cons_eq_ok.2 ⟨_, .type (htype List.mem_cons_self) (typeOfOutline_ofJson hread), ?_⟩
      exact ofOutlineMembers_ofJson hrest hvalues.2 (fun hm => absurd hm hname)
        (fun hm => hproperties (hlater _ hm)) hnone hyields
    by_cases hkey' : name = "properties"
    · subst hkey'
      obtain ⟨properties, hread, hyields⟩ := (Parts.yields_properties hname).1 h
      have hnew : reading.sawProperties = false := hproperties List.mem_cons_self
      cases value with
      | null =>
        cases hread
        refine ofOutlineMembers_cons_eq_ok.2 ⟨_, .null hnew, ?_⟩
        rw [← hnone hnew] at hyields
        exact ofOutlineMembers_ofJson hrest hvalues.2 (fun hm => htype (hlater _ hm)) (fun hm => absurd hm hname)
          (by simp) hyields
      | obj table =>
        cases hread with
        | @read _ _ properties hread =>
        have hdistinct : (Table.names properties).Nodup := names_ofProperties hread ▸ hvalues.1.1
        refine ofOutlineMembers_cons_eq_ok.2 ⟨_, .properties hnew (ofOutlineProperties_ofJson hvalues.1.2 hread), ?_⟩
        rw [Table.ofList_eq_self hdistinct]
        exact ofOutlineMembers_ofJson hrest hvalues.2 (fun hm => htype (hlater _ hm)) (fun hm => absurd hm hname)
          (by simp) hyields
      | _ => cases hread
    · have hyields := (Parts.yields_directive (by simp [structural, hkey, hkey'])).1 h
      refine ofOutlineMembers_cons_eq_ok.2 ⟨_, .directive hkey hkey' (Outline.json?_ofJson hvalues.1), ?_⟩
      exact ofOutlineMembers_ofJson hrest hvalues.2 (fun hm => htype (hlater _ hm))
        (fun hm => hproperties (hlater _ hm)) hnone hyields

theorem ofOutlineProperties_ofJson : ∀ {table : List (String × Json)} {properties : List (String × Description)},
    Json.DistinctMembers table → ofProperties table = .ok properties →
    ofOutlineProperties (Outline.ofJsonMembers table) = .ok properties
  | [], _, _, h => by
    cases h
    rfl
  | (name, value) :: rest, properties, hj, h => by
    rw [ofProperties] at h
    split at h
    · cases h
    · next child hchild =>
      split at h
      · cases h
      · next children hchildren =>
        cases h
        rw [Outline.ofJsonMembers, ofOutlineProperties, ofOutline_ofJson hj.1 hchild,
          ofOutlineProperties_ofJson hj.2 hchildren]
end

end Description

end Rulebook
