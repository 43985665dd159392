import Rulebook.Reference.Basic

/-!
# The grammar of reference notation

A notation has a front — one target character, or else all its leading dots — and behind it segments that are separated
by single dots. `Spells` says so without the reader.

* **Grammar** (`parse_eq_ok_iff`): reading accepts exactly the texts that spell a target and a path, and gives these.
* **Representable** (`spells_written`, `Spells.representable`): the notation of a target and a path spells them if no
  segment is empty or holds a dot and context and local targets have a path; no text spells any other.
* **Canonical** (`Spells.written_eq`): what is read is written as it was, but for two dots that could be left out.
-/

namespace Rulebook

/-! ## Pieces of a text -/

namespace Text

variable {separator : Char}

/-- No piece holds the separator. -/
theorem not_mem_of_mem_pieces : ∀ {text piece : List Char}, piece ∈ pieces separator text → separator ∉ piece
  | [], piece, h => by simp_all [pieces]
  | c :: rest, piece, h => by
    unfold pieces at h
    split at h
    · rcases List.mem_cons.1 h with rfl | h
      · exact List.not_mem_nil
      · exact not_mem_of_mem_pieces h
    · next hc =>
      split at h
      · rw [List.mem_singleton.1 h]
        exact fun hm => hc (List.mem_singleton.1 hm).symm
      · next first more hp =>
        have hpieces : ∀ q ∈ pieces separator rest, separator ∉ q := fun _ hq => not_mem_of_mem_pieces hq
        rw [hp] at hpieces
        rcases List.mem_cons.1 h with rfl | h
        · have hfirst := hpieces first List.mem_cons_self
          exact fun hm => (List.mem_cons.1 hm).elim (fun e => hc e.symm) hfirst
        · exact hpieces piece (List.mem_cons_of_mem _ h)

/-- A text without the separator is one piece. -/
theorem pieces_of_not_mem : ∀ {text : List Char}, separator ∉ text → pieces separator text = [text]
  | [], _ => rfl
  | c :: rest, h => by
    obtain ⟨hc, hr⟩ := not_or.1 (mt List.mem_cons.2 h)
    simp only [pieces, if_neg fun e : c = separator => hc e.symm, pieces_of_not_mem hr]

/-- A separator ends the piece in front of it. -/
theorem pieces_append : ∀ {front : List Char} (rest : List Char), separator ∉ front →
    pieces separator (front ++ separator :: rest) = front :: pieces separator rest
  | [], rest, _ => by simp [pieces]
  | c :: front, rest, h => by
    obtain ⟨hc, hr⟩ := not_or.1 (mt List.mem_cons.2 h)
    simp only [List.cons_append, pieces, if_neg fun e : c = separator => hc e.symm, pieces_append rest hr]

end Text

namespace Reference

variable {text rest : List Char} {target : Target} {path : List String}

/-! ## Paths -/

/-- A segment of a path has a character and no dot. -/
def IsSegment (segment : String) : Prop := segment ≠ "" ∧ '.' ∉ segment.toList

/-- A text of segments that are separated by single dots. -/
inductive Dotted : List Char → List String → Prop
  | last {segment : String} : IsSegment segment → Dotted segment.toList [segment]
  | cons {segment : String} {rest : List Char} {path : List String} : IsSegment segment → Dotted rest path →
      Dotted (segment.toList ++ '.' :: rest) (segment :: path)

/-- A segment starts with a character that is no dot. -/
theorem IsSegment.head {segment : String} (h : IsSegment segment) :
    ∃ c cs, segment.toList = c :: cs ∧ c ≠ '.' := by
  obtain ⟨c, cs, hc⟩ : ∃ c cs, segment.toList = c :: cs :=
    List.exists_cons_of_ne_nil fun he => h.1 (String.toList_inj.1 he)
  refine ⟨c, cs, hc, ?_⟩
  rintro rfl
  exact h.2 (hc ▸ List.mem_cons_self)

/-- A dotted text starts as its first segment does, which is not with a dot. -/
theorem Dotted.head (h : Dotted text path) : ∃ c more cs segment segments, text = c :: more ∧ c ≠ '.' ∧
    path = segment :: segments ∧ segment.toList = c :: cs := by
  cases h with
  | last hs =>
    obtain ⟨c, cs, hc, hdot⟩ := hs.head
    exact ⟨c, cs, cs, _, _, hc, hdot, rfl, hc⟩
  | cons hs _ =>
    obtain ⟨c, cs, hc, hdot⟩ := hs.head
    exact ⟨c, _, cs, _, _, by rw [hc, List.cons_append], hdot, rfl, hc⟩

/-- The pieces of a dotted text are its segments. -/
theorem Dotted.pieces_eq (h : Dotted text path) : Text.pieces '.' text = path.map String.toList := by
  induction h with
  | last hs => rw [Text.pieces_of_not_mem hs.2, List.map_singleton]
  | cons hs _ ih => rw [Text.pieces_append _ hs.2, ih, List.map_cons]

/-- A dotted text is its segments joined by dots. -/
theorem Dotted.join_eq (h : Dotted text path) : Text.join '.' (path.map String.toList) = text := by
  rw [← h.pieces_eq, Text.join_pieces]

/-- Every segment of a dotted text is one. -/
theorem Dotted.segments (h : Dotted text path) : ∀ segment ∈ path, IsSegment segment := by
  induction h with
  | last hs => exact fun _ hm => List.mem_singleton.1 hm ▸ hs
  | cons hs _ ih => exact List.forall_mem_cons.2 ⟨hs, ih⟩

/-- Segments joined by dots are a dotted text. -/
theorem dotted_join : ∀ {path : List String}, path ≠ [] → (∀ segment ∈ path, IsSegment segment) →
    Dotted (Text.join '.' (path.map String.toList)) path
  | [], hne, _ => absurd rfl hne
  | [segment], _, h => .last (h segment List.mem_cons_self)
  | segment :: next :: path, _, h =>
    .cons (h segment List.mem_cons_self) (dotted_join (List.cons_ne_nil next path) fun s hs =>
      h s (List.mem_cons_of_mem _ hs))

/-- A piece between dots that is not empty is a segment. -/
theorem isSegment_of_piece {piece : List Char} (h : piece ∈ Text.pieces '.' text) (hne : piece ≠ []) :
    IsSegment (String.ofList piece) := by
  refine ⟨fun he => hne ?_, ?_⟩
  · simpa using congrArg String.toList he
  · simpa using Text.not_mem_of_mem_pieces h

/-- A text is dotted when none of its pieces is empty, and then its segments are the pieces. -/
theorem dotted_iff : Dotted text path ↔
    (Text.pieces '.' text).any List.isEmpty = false ∧ path = (Text.pieces '.' text).map String.ofList := by
  constructor
  · intro h
    rw [h.pieces_eq]
    refine ⟨List.any_eq_false.2 fun p hp => ?_, by simp [Function.comp_def]⟩
    obtain ⟨s, hs, rfl⟩ := List.mem_map.1 hp
    simpa using (h.segments s hs).1
  · rintro ⟨hfull, rfl⟩
    have hne : (Text.pieces '.' text).map String.ofList ≠ [] := by simpa using Text.pieces_ne_nil '.' text
    have hsegments : ∀ s ∈ (Text.pieces '.' text).map String.ofList, IsSegment s := by
      intro s hs
      obtain ⟨p, hp, rfl⟩ := List.mem_map.1 hs
      exact isSegment_of_piece hp (by simpa using List.any_eq_false.1 hfull p hp)
    have htext : Text.join '.' (((Text.pieces '.' text).map String.ofList).map String.toList) = text := by
      simp [Function.comp_def, Text.join_pieces]
    have hdotted := dotted_join hne hsegments
    rwa [htext] at hdotted

/-! ## Fronts -/

/-- A text that starts neither with a dot nor with a target character. -/
def Plain (text : List Char) : Prop := ∀ c ∈ text.head?, c ∉ ['.', '/', '$', '#']

/-- What a notation starts with: one target character, or else all its leading dots. -/
inductive Leads : List Char → Target → List Char → Prop
  | root (rest : List Char) : Leads ('/' :: rest) .root rest
  | context (rest : List Char) : Leads ('$' :: rest) .context rest
  | localValue (rest : List Char) : Leads ('#' :: rest) .localValue rest
  | bare {rest : List Char} : Plain rest → Leads rest (.ancestor 1) rest
  | dots (level : Nat) {rest : List Char} : rest.head? ≠ some '.' →
      Leads (List.replicate (level + 1) '.' ++ rest) (.ancestor level) rest

theorem plain_iff : Plain text ↔ text.head? ≠ some '.' ∧ startsLikeTarget text = false := by
  cases text with
  | nil => simp [Plain, startsLikeTarget]
  | cons c cs => simp [Plain, startsLikeTarget, and_assoc]

/-- A text is its leading dots and what they leave. -/
theorem exists_dots : ∀ text : List Char, ∃ count rest, text = List.replicate count '.' ++ rest ∧ rest.head? ≠ some '.'
  | [] => ⟨0, [], rfl, by simp⟩
  | c :: cs => by
    by_cases hc : c = '.'
    · obtain ⟨count, rest, hcs, hhead⟩ := exists_dots cs
      exact ⟨count + 1, rest, by rw [hc, hcs, List.replicate_succ, List.cons_append], hhead⟩
    · exact ⟨0, c :: cs, rfl, by simpa using hc⟩

/-- Leading dots are taken off as far as they go. -/
theorem span_dots (hhead : rest.head? ≠ some '.') (count : Nat) :
    (List.replicate count '.' ++ rest).takeWhile (· == '.') = List.replicate count '.' ∧
      (List.replicate count '.' ++ rest).dropWhile (· == '.') = rest := by
  induction count with
  | zero =>
    cases rest with
    | nil => exact ⟨rfl, rfl⟩
    | cons c cs =>
      have hc : (c == '.') = false := by simpa using hhead
      simp [hc]
  | succ count ih => simpa [List.replicate_succ] using ih

/-- Without a target character in front the leading dots are counted. -/
theorem splitTarget_dots (hhead : rest.head? ≠ some '.') (count : Nat)
    (hstart : startsLikeTarget (List.replicate count '.' ++ rest) = false) :
    splitTarget (List.replicate count '.' ++ rest) = (.ancestor (if count = 0 then 1 else count - 1), rest) := by
  obtain ⟨htake, hdrop⟩ := span_dots hhead count
  have hlength := congrArg List.length htake
  rw [List.length_replicate] at hlength
  generalize List.replicate count '.' ++ rest = text at hlength hdrop hstart
  unfold splitTarget
  split
  · simp [startsLikeTarget] at hstart
  · simp [startsLikeTarget] at hstart
  · simp [startsLikeTarget] at hstart
  · simp only [hlength, hdrop]

/-- Splitting takes the front of a notation off. -/
theorem Leads.splitTarget_eq (h : Leads text target rest) : splitTarget text = (target, rest) := by
  cases h with
  | root | context | localValue => rfl
  | bare hplain =>
    obtain ⟨hhead, hstart⟩ := plain_iff.1 hplain
    exact splitTarget_dots hhead 0 hstart
  | dots level hhead =>
    exact splitTarget_dots hhead (level + 1) (by simp [List.replicate_succ, startsLikeTarget])

/-- Every text has a front. -/
theorem leads_splitTarget (text : List Char) : Leads text (splitTarget text).1 (splitTarget text).2 := by
  by_cases hstart : startsLikeTarget text = true
  · match text, hstart with
    | c :: cs, hstart =>
      simp only [startsLikeTarget, Bool.or_eq_true, beq_iff_eq] at hstart
      rcases hstart with (rfl | rfl) | rfl
      · exact .root cs
      · exact .context cs
      · exact .localValue cs
  · obtain ⟨count, rest, rfl, hhead⟩ := exists_dots text
    cases count with
    | zero =>
      have hlead : Leads rest (.ancestor 1) rest := .bare (plain_iff.2 ⟨hhead, by simpa using hstart⟩)
      simpa [hlead.splitTarget_eq] using hlead
    | succ level =>
      have hlead : Leads (List.replicate (level + 1) '.' ++ rest) (.ancestor level) rest := .dots level hhead
      simpa only [hlead.splitTarget_eq] using hlead

/-- A text has one front. -/
theorem Leads.unique {other : Target} {rest' : List Char} (h : Leads text target rest) (h' : Leads text other rest') :
    target = other ∧ rest = rest' :=
  Prod.mk.inj (h.splitTarget_eq.symm.trans h'.splitTarget_eq)

/-! ## Notation -/

/-- **The grammar of reference notation**: which target and path a text spells. Only the root and an ancestor may stand
without a path. -/
inductive Spells : List Char → Target → List String → Prop
  | root : Spells ['/'] .root []
  | ancestor (level : Nat) : Spells (List.replicate (level + 1) '.') (.ancestor level) []
  | path {text rest : List Char} {target : Target} {path : List String} : Leads text target rest → Dotted rest path →
      Spells text target path

/-- A target and path that have a notation of their own: no segment is empty or holds a dot, and context and local
targets have a path. -/
structure Representable (target : Target) (path : List String) : Prop where
  segments : ∀ segment ∈ path, segment ≠ "" ∧ '.' ∉ segment.toList
  key : path = [] → target ≠ .context ∧ target ≠ .localValue

/-- A text spells representable targets and paths only. -/
theorem Spells.representable (h : Spells text target path) : Representable target path := by
  cases h with
  | root => exact ⟨fun _ hs => absurd hs List.not_mem_nil, fun _ => by simp⟩
  | ancestor level => exact ⟨fun _ hs => absurd hs List.not_mem_nil, fun _ => by simp⟩
  | path _ hdotted =>
    obtain ⟨c, more, cs, segment, segments, -, -, rfl, -⟩ := hdotted.head
    exact ⟨hdotted.segments, fun he => absurd he (List.cons_ne_nil _ _)⟩

/-- What spells is not empty. -/
theorem Spells.ne_nil (h : Spells text target path) : text ≠ [] := by
  cases h with
  | root => exact List.cons_ne_nil _ _
  | ancestor level => simp [List.replicate_succ]
  | path hlead hdotted =>
    obtain ⟨c, more, cs, segment, segments, rfl, -⟩ := hdotted.head
    cases hlead <;> simp

/-- A front alone spells the root or an ancestor. -/
theorem Leads.spells (h : Leads text target []) (hne : text ≠ []) (hc : target ≠ .context)
    (hl : target ≠ .localValue) : Spells text target [] := by
  cases h with
  | root => exact .root
  | context => contradiction
  | localValue => contradiction
  | bare => contradiction
  | dots level => simpa using Spells.ancestor level

/-- What a text spells is what stands behind its front. -/
theorem Spells.leads (h : Spells text target path) : ∃ rest, Leads text target rest ∧
    (Dotted rest path ∨ rest = [] ∧ path = [] ∧ target ≠ .context ∧ target ≠ .localValue) := by
  cases h with
  | root => exact ⟨[], .root [], .inr (by simp)⟩
  | ancestor level =>
    have hlead : Leads (List.replicate (level + 1) '.' ++ []) (.ancestor level) [] := .dots level (by simp)
    rw [List.append_nil] at hlead
    exact ⟨[], hlead, .inr (by simp)⟩
  | path hlead hdotted => exact ⟨_, hlead, .inl hdotted⟩

/-- What reading accepts spells its target and path, and carries no options. -/
theorem spells_of_parse {text : String} {r : Reference} (h : parse text = .ok r) :
    Spells text.toList r.target r.path ∧ r = { target := r.target, path := r.path } := by
  have hlead := leads_splitTarget text.toList
  unfold parse at h
  split at h
  · cases h
  · next hne =>
    simp only at h
    split at h
    · next hrest =>
      rw [hrest] at hlead
      split at h
      · cases h
      · cases h
      · next hc hl =>
        cases h
        exact ⟨hlead.spells hne hc hl, rfl⟩
    · split at h
      · cases h
      · next hfull =>
        cases h
        exact ⟨.path hlead (dotted_iff.2 ⟨Bool.eq_false_iff.2 hfull, rfl⟩), rfl⟩

/-- What a text spells is read. -/
theorem parse_of_spells {text : String} (h : Spells text.toList target path) :
    parse text = .ok { target, path } := by
  obtain ⟨rest, hlead, hrest⟩ := h.leads
  unfold parse
  rw [if_neg h.ne_nil]
  simp only [hlead.splitTarget_eq]
  rcases hrest with hdotted | ⟨rfl, rfl, hc, hl⟩
  · obtain ⟨c, more, cs, segment, segments, rfl, -⟩ := hdotted.head
    obtain ⟨hfull, rfl⟩ := dotted_iff.1 hdotted
    rw [if_neg (List.cons_ne_nil c more), hfull]
    simp
  · rw [if_pos rfl]
    split
    · contradiction
    · contradiction
    · rfl

/-- **Reading accepts exactly the grammar**, and gives the target and path that a text spells. -/
theorem parse_eq_ok_iff {text : String} {r : Reference} :
    parse text = .ok r ↔ ∃ target path, Spells text.toList target path ∧ r = { target, path } := by
  constructor
  · intro h
    obtain ⟨hspells, hplain⟩ := spells_of_parse h
    exact ⟨_, _, hspells, hplain⟩
  · rintro ⟨target, path, hspells, rfl⟩
    exact parse_of_spells hspells

/-- What reading accepts is representable, and carries no options. -/
theorem representable_of_parse {text : String} {r : Reference} (h : parse text = .ok r) :
    Representable r.target r.path ∧ r = { target := r.target, path := r.path } :=
  (spells_of_parse h).imp_left Spells.representable

/-! ## Writing -/

/-- Two dots in front of a path that needs none: it starts neither with a further dot nor like another target. -/
def Doubled (text : List Char) : Prop := ∃ rest, text = '.' :: '.' :: rest ∧ rest ≠ [] ∧ Plain rest

/-- The text of a path does not start with a dot. -/
theorem Dotted.head?_ne (h : Dotted rest path) : rest.head? ≠ some '.' := by
  obtain ⟨c, more, cs, segment, segments, rfl, hc, -⟩ := h.head
  simpa using hc

/-- A path from an ancestor is written behind its dots, but bare from ancestor 1 where it does not start like a
target. -/
theorem written_ancestor (h : Dotted rest path) (level : Nat) :
    written (.ancestor level) (path.map String.toList) =
      if level = 1 ∧ startsLikeTarget rest = false then rest else List.replicate (level + 1) '.' ++ rest := by
  have hjoin := h.join_eq
  obtain ⟨c, more, cs, segment, segments, rfl, -, rfl, hc⟩ := h.head
  simp only [written, hjoin]
  simp [hc, startsLikeTarget]

/-- Dots in front of a path are doubled when there are two and the path starts like no target. -/
theorem doubled_dots (h : Dotted rest path) (level : Nat) :
    Doubled (List.replicate (level + 1) '.' ++ rest) ↔ level = 1 ∧ startsLikeTarget rest = false := by
  constructor
  · rintro ⟨other, he, -, hplain⟩
    obtain ⟨hhead, hstart⟩ := plain_iff.1 hplain
    have hlead : Leads ('.' :: '.' :: other) (.ancestor 1) other := .dots 1 hhead
    rw [← he] at hlead
    obtain ⟨hlevel, rfl⟩ := hlead.unique (.dots level h.head?_ne)
    cases hlevel
    exact ⟨rfl, hstart⟩
  · rintro ⟨rfl, hstart⟩
    refine ⟨rest, rfl, ?_, plain_iff.2 ⟨h.head?_ne, hstart⟩⟩
    obtain ⟨c, more, cs, segment, segments, rfl, -⟩ := h.head
    exact List.cons_ne_nil c more

/-- **What is read is written as it was**, but for two dots that could be left out. -/
theorem Spells.written_eq (h : Spells text target path) :
    (¬ Doubled text → written target (path.map String.toList) = text) ∧
      (Doubled text → written target (path.map String.toList) = text.drop 2) := by
  have hfront : ∀ {c : Char} {rest : List Char}, c ≠ '.' → ¬ Doubled (c :: rest) := by
    rintro c rest hc ⟨more, he, -⟩
    exact hc (List.cons.inj he).1
  cases h with
  | root => exact ⟨fun _ => rfl, fun hd => absurd hd (hfront (by decide))⟩
  | ancestor level =>
    refine ⟨fun _ => by simp [written, Text.join], ?_⟩
    rintro ⟨rest, he, hne, hplain⟩
    obtain ⟨c, cs, rfl⟩ := List.exists_cons_of_ne_nil hne
    have hdot : c ∈ List.replicate (level + 1) '.' := by rw [he]; simp
    simp [Plain, List.eq_of_mem_replicate hdot] at hplain
  | path hlead hdotted =>
    have hjoin := hdotted.join_eq
    cases hlead with
    | root => exact ⟨fun _ => congrArg _ hjoin, fun hd => absurd hd (hfront (by decide))⟩
    | context => exact ⟨fun _ => congrArg _ hjoin, fun hd => absurd hd (hfront (by decide))⟩
    | localValue => exact ⟨fun _ => congrArg _ hjoin, fun hd => absurd hd (hfront (by decide))⟩
    | bare hplain =>
      obtain ⟨hhead, hstart⟩ := plain_iff.1 hplain
      rw [written_ancestor hdotted, if_pos ⟨rfl, hstart⟩]
      refine ⟨fun _ => rfl, ?_⟩
      rintro ⟨rest, rfl, -⟩
      exact absurd rfl hhead
    | dots level hhead =>
      -- only here can the text be written otherwise, and it is where the dots are doubled
      rw [written_ancestor hdotted, doubled_dots hdotted]
      constructor
      · exact fun h => if_neg h
      · intro h
        rw [if_pos h, h.1]
        rfl

/-- **The notation of a representable target and path spells them.** -/
theorem spells_written (h : Representable target path) :
    Spells (written target (path.map String.toList)) target path := by
  by_cases hpath : path = []
  · obtain ⟨hc, hl⟩ := h.key hpath
    subst hpath
    cases target with
    | root => exact .root
    | context => contradiction
    | localValue => contradiction
    | ancestor level => simpa [written, Text.join] using Spells.ancestor level
  · have hdotted := dotted_join hpath h.segments
    cases target with
    | root => exact .path (.root _) hdotted
    | context => exact .path (.context _) hdotted
    | localValue => exact .path (.localValue _) hdotted
    | ancestor level =>
      rw [written_ancestor hdotted]
      split
      · next hbare => exact hbare.1 ▸ .path (.bare (plain_iff.2 ⟨hdotted.head?_ne, hbare.2⟩)) hdotted
      · exact .path (.dots level hdotted.head?_ne) hdotted

/-- **Notation is read back.** -/
theorem parse_text {r : Reference} (h : Representable r.target r.path) :
    parse r.text = .ok { target := r.target, path := r.path } := by
  refine parse_of_spells ?_
  rw [Reference.text, String.toList_ofList]
  exact spells_written h

/-! ## Main results -/

/-- **Reading accepts exactly the grammar, and what is read is written as it was** — except exactly where two dots stand
in front of a path that needs none: it is written without them. -/
theorem parse_reads_grammar (t : String) :
    (∀ r, parse t = .ok r ↔ ∃ target path, Spells t.toList target path ∧ r = { target, path }) ∧
    ∀ r, parse t = .ok r →
      (r.text = t ↔ ¬ Doubled t.toList) ∧ (Doubled t.toList → r.text.toList = t.toList.drop 2) := by
  refine ⟨fun _ => parse_eq_ok_iff, fun r hr => ?_⟩
  obtain ⟨hkept, hshort⟩ := (spells_of_parse hr).1.written_eq
  -- what is written without its dots is shorter, so it is not the text itself
  have htext : r.text.toList = written r.target (r.path.map String.toList) := String.toList_ofList
  refine ⟨⟨fun he hd => ?_, fun hd => String.toList_inj.1 (htext.trans (hkept hd))⟩, fun hd => htext.trans (hshort hd)⟩
  have hlength := congrArg List.length (htext.trans (hshort hd))
  obtain ⟨rest, hdots, -⟩ := hd
  rw [he, hdots] at hlength
  simp only [List.length_cons, List.drop_succ_cons, List.drop_zero] at hlength
  omega

/-- A sibling with two dots is written bare. -/
theorem parse_reads_grammar_sibling :
    ∃ r, parse "..a" = .ok r ∧ r.text.toList = "..a".toList.drop 2 := by
  have hr : parse "..a" = .ok { target := .ancestor 1, path := ["a"] } := by rfl
  have hd : Doubled "..a".toList := ⟨['a'], by decide, by decide, plain_iff.2 (by decide)⟩
  exact ⟨_, hr, ((parse_reads_grammar "..a").2 _ hr).2 hd⟩

/-- **Notation is faithful exactly on what is representable**: the notation of a target and path reads as these when no
segment is empty or holds a dot and context and local targets have a path, and only then. Whatever is read is
representable, so it is read back from its notation, and different targets or paths are never written alike. -/
theorem notation_faithful :
    (∀ target path, (∃ r, parse (Reference.text { target, path }) = .ok r ∧ r.target = target ∧ r.path = path) ↔
      Representable target path) ∧
    (∀ t r, parse t = .ok r → Representable r.target r.path ∧ parse r.text = .ok r) ∧
    ∀ t t' r r', parse t = .ok r → parse t' = .ok r' → r.text = r'.text → r.target = r'.target ∧ r.path = r'.path := by
  have hback : ∀ {t r}, parse t = .ok r → Representable r.target r.path ∧ parse r.text = .ok r := by
    intro t r hr
    obtain ⟨hrep, hplain⟩ := representable_of_parse hr
    exact ⟨hrep, (parse_text hrep).trans (congrArg _ hplain.symm)⟩
  refine ⟨fun target path => ⟨?_, fun h => ⟨_, @parse_text { target, path } h, rfl, rfl⟩⟩, fun t r => hback, ?_⟩
  · rintro ⟨r, hr, rfl, rfl⟩
    exact (hback hr).1
  · intro t t' r r' hr hr' he
    have hsame : Except.ok r = Except.ok r' := (hback hr).2.symm.trans (he ▸ (hback hr').2)
    cases hsame
    exact ⟨rfl, rfl⟩

/-- A sibling whose name starts like a target keeps its dots; the two spellings of any other are one reference. -/
theorem notation_faithful_sibling :
    (∃ r, parse "../x" = .ok r ∧ Representable r.target r.path ∧ parse r.text = .ok r) ∧
      ∃ r r', parse "..x" = .ok r ∧ parse "x" = .ok r' ∧ r.target = r'.target ∧ r.path = r'.path := by
  have hslash : parse "../x" = .ok { target := .ancestor 1, path := ["/x"] } := by rfl
  have hdots : parse "..x" = .ok { target := .ancestor 1, path := ["x"] } := by rfl
  have hbare : parse "x" = .ok { target := .ancestor 1, path := ["x"] } := by rfl
  obtain ⟨-, hback, hapart⟩ := notation_faithful
  exact ⟨⟨_, hslash, hback _ _ hslash⟩, _, _, hdots, hbare, hapart _ _ _ _ hdots hbare rfl⟩

end Reference
end Rulebook
