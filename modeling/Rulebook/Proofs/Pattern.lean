import Rulebook.Pattern.Record
import Rulebook.Proofs.Fallible

/-!
# Patterns are read back as they are written

A pattern is *regular* when its flags are flag letters in increasing order. Reading gives only regular patterns
(`regular_of_ofJson`), and a regular pattern is read back from its form in a description (`ofJson_toJson`): the
delimiters `/` are written exactly where the bare source would lose the flags or read as a literal itself.

* `collectFlags_eq_ok` says which flag letters are collected, and that they come out in order.
* `withMembers_iff` takes the members of a record as steps (`Sets`); those of different names commute (`Sets.comm`).
-/

namespace Rulebook
namespace Pattern

open Fallible

/-! ## Flags -/

/-- The flags are flag letters in increasing order. -/
def Regular (p : Pattern) : Prop := p.flags.Pairwise (· < ·) ∧ ∀ c ∈ p.flags, isFlag c = true

/-- The members of a set of flags after one is added. -/
theorem mem_addFlag {flag c : Char} : ∀ {flags : List Char}, c ∈ addFlag flag flags ↔ c = flag ∨ c ∈ flags
  | [] => by simp [addFlag]
  | d :: flags => by
    unfold addFlag
    split
    · next h => simp [h]
    · split
      · simp
      · have ih : c ∈ addFlag flag flags ↔ c = flag ∨ c ∈ flags := mem_addFlag
        simp only [List.mem_cons, ih]
        exact or_left_comm

/-- Adding a flag keeps the order. -/
theorem pairwise_addFlag {flag : Char} : ∀ {flags : List Char}, flags.Pairwise (· < ·) →
    (addFlag flag flags).Pairwise (· < ·)
  | [], _ => by simp [addFlag]
  | d :: flags, h => by
    obtain ⟨hd, hrest⟩ := List.pairwise_cons.1 h
    unfold addFlag
    split
    · exact h
    · next hne =>
      split
      · next hlt => exact List.pairwise_cons.2 ⟨fun c hc => (List.mem_cons.1 hc).elim (· ▸ hlt) fun hm =>
          Char.lt_trans hlt (hd c hm), h⟩
      · next hle =>
        refine List.pairwise_cons.2 ⟨fun c hc => ?_, pairwise_addFlag hrest⟩
        rcases mem_addFlag.1 hc with rfl | hm
        · by_cases hlt : d < c
          · exact hlt
          · exact absurd (Char.le_antisymm (Char.not_lt.1 hlt) (Char.not_lt.1 hle)) hne
        · exact hd c hm

/-- A new flag joins the others. -/
theorem addFlag_perm {flag : Char} : ∀ {flags : List Char}, flag ∉ flags → (addFlag flag flags).Perm (flag :: flags)
  | [], _ => .refl _
  | d :: flags, h => by
    obtain ⟨hne, hrest⟩ := not_or.1 (mt List.mem_cons.2 h)
    unfold addFlag
    rw [if_neg hne]
    split
    · exact .refl _
    · exact ((addFlag_perm hrest).cons d).trans (.swap flag d flags)

/-- **Letters are collected** when each is a flag letter and none comes twice, and they come out in order. -/
theorem collectFlags_eq_ok {source flags : String} : ∀ {letters set out : List Char}, set.Pairwise (· < ·) →
    (collectFlags source flags set letters = .ok out ↔
      (∀ c ∈ letters, isFlag c = true) ∧ (set ++ letters).Nodup ∧ out.Pairwise (· < ·) ∧ out.Perm (set ++ letters))
  | [], set, out, hset => by
    rw [List.append_nil]
    constructor
    · rintro ⟨⟩
      exact ⟨by simp, hset.imp Char.ne_of_lt, hset, .refl _⟩
    · rintro ⟨-, -, hout, hperm⟩
      have heq : out = set := hperm.eq_of_pairwise (fun a b _ _ hab hba => absurd hba (Char.lt_asymm hab)) hout hset
      rw [heq]
      rfl
  | c :: letters, set, out, hset => by
    unfold collectFlags
    by_cases hflag : isFlag c = true
    · by_cases hmem : c ∈ set
      · have hrepeated : ¬ (set ++ c :: letters).Nodup := fun hn =>
          (List.nodup_append.1 hn).2.2 c hmem c List.mem_cons_self rfl
        simp [hflag, hmem, hrepeated]
      · have hperm : (addFlag c set ++ letters).Perm (set ++ c :: letters) :=
          ((addFlag_perm hmem).append_right letters).trans List.perm_middle.symm
        have ih := @collectFlags_eq_ok source flags letters (addFlag c set) out (pairwise_addFlag hset)
        rw [hperm.nodup_iff, hperm.congr_right] at ih
        simpa [hflag, hmem] using ih
    · simp [hflag]

/-- Collected letters are flag letters in order. -/
theorem collectFlags_regular {source flags : String} {letters out : List Char}
    (h : collectFlags source flags [] letters = .ok out) : out.Pairwise (· < ·) ∧ ∀ c ∈ out, isFlag c = true := by
  obtain ⟨hflags, -, hout, hperm⟩ := (collectFlags_eq_ok .nil).1 h
  exact ⟨hout, fun c hc => hflags c (hperm.mem_iff.1 hc)⟩

/-- Flags in order are collected as they are. -/
theorem collectFlags_self (source flags : String) {letters : List Char} (hp : letters.Pairwise (· < ·))
    (hf : ∀ c ∈ letters, isFlag c = true) : collectFlags source flags [] letters = .ok letters :=
  (collectFlags_eq_ok .nil).2 ⟨hf, hp.imp Char.ne_of_lt, hp, .refl _⟩

/-- Extending flags keeps the order and takes only flag letters. -/
theorem extendFlags_regular : ∀ {letters set out : List Char}, set.Pairwise (· < ·) →
    (∀ c ∈ set, isFlag c = true) → extendFlags set letters = .ok out →
    out.Pairwise (· < ·) ∧ ∀ c ∈ out, isFlag c = true
  | [], set, out, hp, hf, h => by
    cases h
    exact ⟨hp, hf⟩
  | c :: letters, set, out, hp, hf, h => by
    unfold extendFlags at h
    split at h
    · next hc =>
      refine extendFlags_regular (pairwise_addFlag hp) (fun d hd => ?_) h
      rcases mem_addFlag.1 hd with rfl | hm
      · exact hc
      · exact hf d hm
    · cases h

/-! ## Reading -/

/-- A compiled pattern has the given source and flags, no name, and is not inverted. -/
theorem compile_ok {source : String} {flags : List Char} {p : Pattern} (h : compile source flags = .ok p) :
    p.source = source ∧ p.flags = flags ∧ p.name = none ∧ p.invert = false := by
  unfold compile at h
  split at h
  · cases h
    exact ⟨rfl, rfl, rfl, rfl⟩
  · cases h

theorem regular_of_make {source flags : String} {p : Pattern} (h : make source flags = .ok p) : p.Regular := by
  obtain ⟨set, hset, hp⟩ := bind_eq_ok.1 h
  unfold Regular
  rw [(compile_ok hp).2.1]
  exact collectFlags_regular hset

theorem regular_of_parse {text : String} {p : Pattern} (h : parse text = .ok p) : p.Regular := by
  unfold parse at h
  split at h <;> exact regular_of_make h

/-- What a member of a record does to a pattern. -/
inductive Sets (written : String) (p : Pattern) : String × Json → Pattern → Prop
  | pattern (value : Json) : Sets written p ("pattern", value) p
  | flags {extra : String} {set : List Char} {q : Pattern} : extendFlags p.flags extra.toList = .ok set →
      compile (sourceOf written) set = .ok q →
      Sets written p ("flags", .str extra) { q with name := p.name, invert := p.invert }
  | name (label : String) : Sets written p ("name", .str label) { p with name := some label }
  | invert (flag : Bool) : Sets written p ("invert", .bool flag) { p with invert := flag }

/-- The members of a record are applied one after another. -/
theorem withMembers_iff {written : String} : ∀ {members : List (String × Json)} {p q : Pattern},
    withMembers written p members = .ok q ↔ Runs (Sets written) p members q
  | [], p, q => by
    constructor
    · rintro ⟨⟩
      exact .nil p
    · rintro ⟨⟩
      rfl
  | (name, value) :: rest, p, q => by
    constructor
    · intro h
      unfold withMembers at h
      split at h
      · next hname => exact hname ▸ .cons (.pattern value) (withMembers_iff.1 h)
      · split at h
        · obtain ⟨flags, hflags, h⟩ := bind_eq_ok.1 h
          obtain ⟨s, hs, h⟩ := bind_eq_ok.1 h
          exact .cons (.flags hflags hs) (withMembers_iff.1 h)
        · next label _ => exact .cons (.name label) (withMembers_iff.1 h)
        · next flag _ => exact .cons (.invert flag) (withMembers_iff.1 h)
        · cases h
    · rintro (_ | ⟨hset, hrest⟩)
      have hread := withMembers_iff.2 hrest
      unfold withMembers
      cases hset with
      | pattern => rwa [if_pos rfl]
      | flags hflags hs =>
        rw [if_neg (by decide)]
        simpa only [hflags, hs, ok_bind] using hread
      | name => simpa using hread
      | invert => simpa using hread

/-- Members of different names set different things. -/
theorem Sets.comm {written : String} {p q s : Pattern} {x y : String × Json} (hne : x.1 ≠ y.1)
    (hx : Sets written p x q) (hy : Sets written q y s) : ∃ t, Sets written p y t ∧ Sets written t x s := by
  cases hx with
  | pattern value => exact ⟨s, hy, .pattern value⟩
  | @flags extra set r hflags hcompile =>
    cases hy with
    | pattern value => exact ⟨p, .pattern value, .flags hflags hcompile⟩
    | flags => exact absurd rfl hne
    | name label => exact ⟨_, .name label, .flags (q := r) hflags hcompile⟩
    | invert flag => exact ⟨_, .invert flag, .flags (q := r) hflags hcompile⟩
  | name label =>
    cases hy with
    | pattern value => exact ⟨p, .pattern value, .name label⟩
    | flags hflags hcompile => exact ⟨_, .flags hflags hcompile, .name label⟩
    | name => exact absurd rfl hne
    | invert flag => exact ⟨_, .invert flag, .name label⟩
  | invert flag =>
    cases hy with
    | pattern value => exact ⟨p, .pattern value, .invert flag⟩
    | flags hflags hcompile => exact ⟨_, .flags hflags hcompile, .invert flag⟩
    | name label => exact ⟨_, .name label, .invert flag⟩
    | invert => exact absurd rfl hne

theorem regular_of_withMembers {written : String} {members : List (String × Json)} {p q : Pattern} (hp : p.Regular)
    (h : withMembers written p members = .ok q) : q.Regular := by
  refine (withMembers_iff.1 h).keeps ?_ hp
  intro s t x hs hset
  cases hset with
  | pattern | name | invert => exact hs
  | flags hflags hcompile =>
    unfold Regular
    rw [(compile_ok hcompile).2.1]
    exact extendFlags_regular hs.1 hs.2 hflags

/-- **Reading gives regular patterns.** -/
theorem regular_of_ofJson {value : Json} {p : Pattern} (h : ofJson value = .ok p) : p.Regular := by
  unfold ofJson at h
  split at h
  · exact regular_of_parse h
  · unfold ofRecord at h
    split at h
    · obtain ⟨q, hq, h⟩ := bind_eq_ok.1 h
      exact regular_of_withMembers (regular_of_parse hq) h
    · cases h
    · cases h
  · cases h

/-! ## Writing -/

/-- The last slash is found in front of letters that are none. -/
theorem splitLast_append {back : List Char} (hb : '/' ∉ back) : ∀ front : List Char,
    splitLast (front ++ '/' :: back) = some (front, back)
  | [] => by
    have hnone : ∀ {cs : List Char}, '/' ∉ cs → splitLast cs = none := by
      intro cs hcs
      induction cs with
      | nil => rfl
      | cons c cs ih =>
        obtain ⟨hc, hr⟩ := not_or.1 (mt List.mem_cons.2 hcs)
        simp only [splitLast, ih hr, if_neg fun e : c = '/' => hc e.symm]
    simp [splitLast, hnone hb]
  | c :: front => by simp [splitLast, splitLast_append hb front]

/-- A slash is no flag letter. -/
theorem slash_not_mem {flags : List Char} (h : ∀ c ∈ flags, isFlag c = true) : '/' ∉ flags :=
  fun hm => absurd (h '/' hm) (by decide)

/-- A literal is split into its source and its flags. -/
theorem splitLiteral_literal (source : String) {flags : List Char} (h : ∀ c ∈ flags, isFlag c = true) :
    splitLiteral ("/" ++ source ++ "/" ++ String.ofList flags).toList = some (source.toList, flags) := by
  have hlast := splitLast_append (slash_not_mem h) source.toList
  have hall : flags.all isFlag = true := List.all_eq_true.2 h
  simp [splitLiteral, String.toList_append, hlast, hall]

/-- The text form of a pattern gives it back without its name and inversion. -/
theorem parse_text {p : Pattern} (h : p.Regular) : parse p.text = .ok { p with name := none, invert := false } := by
  have hself : compile p.source p.flags = .ok { p with name := none, invert := false } := dif_pos p.compiles
  have hmake : make p.source (String.ofList p.flags) = .ok { p with name := none, invert := false } := by
    have hcollect := collectFlags_self p.source (String.ofList p.flags) h.1 h.2
    simp only [make, String.toList_ofList, hcollect, ok_bind, hself]
  unfold text
  split
  · next hbare =>
    simp only [Bool.and_eq_true, List.isEmpty_iff, Option.isNone_iff_eq_none] at hbare
    have hflags : String.ofList p.flags = "" := by rw [hbare.1]
    simpa only [parse, hbare.2, ← hflags] using hmake
  · simp only [parse, splitLiteral_literal p.source h.2, String.ofList_toList]
    exact hmake

/-- The record of a pattern. -/
def record (p : Pattern) : Table Json :=
  ("pattern", .str p.text)
    :: ((p.name.map fun label => ("name", .str label)).toList ++ if p.invert then [("invert", .bool true)] else [])

theorem names_record (p : Pattern) : ∀ name ∈ Table.names p.record, name ∈ ["pattern", "name", "invert"] := by
  unfold record
  cases p.name <;> cases p.invert <;> simp [Table.names]

/-- A pattern is written as its text when that is its whole record, and as its record else. -/
theorem toJson_record (p : Pattern) : (p.toJson = .str p.text ∧ p.record = [("pattern", .str p.text)]) ∨
    p.toJson = .obj p.record := by
  unfold toJson record
  cases p.name <;> cases p.invert <;> simp

/-- The record of a regular pattern is read back. -/
theorem ofJson_record {p : Pattern} (h : p.Regular) : ofJson (.obj p.record) = .ok p := by
  have hparse := parse_text h
  obtain ⟨source, flags, name, invert, compiles⟩ := p
  simp only [ofJson, ofRecord, record, Table.get?_cons, if_true, hparse, ok_bind]
  -- the name and the inversion are each written or left out
  cases name <;> cases invert <;> simp [withMembers]

/-- **Regular patterns are read back.** -/
theorem ofJson_toJson {p : Pattern} (h : p.Regular) : ofJson p.toJson = .ok p := by
  have hread := ofJson_record h
  rcases p.toJson_record with ⟨htext, hrecord⟩ | hp
  · rw [hrecord] at hread
    simp only [ofJson, ofRecord, Table.get?_cons, if_true, parse_text h, ok_bind, withMembers] at hread
    rw [htext, ofJson, parse_text h, hread]
  · rw [hp]
    exact hread

end Pattern
end Rulebook
