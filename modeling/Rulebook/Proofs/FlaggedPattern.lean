import Rulebook.Proofs.Pattern

/-!
# Patterns with flags: records and literals

A pattern with flags is written as a literal `/source/flags` or as a record with members `pattern` and `flags`. Where
the record is read, the literal is read as the same pattern; but a record compiles its source alone first, so it is
refused where the source needs its flags to be a regular expression (`record_iff_literal`).

* `extendFlags_of_collectFlags`: distinct flag letters give the same flags in either form.
* `withMembers_flags`: extra flags compile the bare source once more, now with its flags.
-/

namespace Rulebook
namespace Pattern

open Fallible

variable {source flags : String} {letters set out : List Char}

/-- Flag letters that do not come twice are collected. -/
theorem exists_collectFlags (source flags : String) : ∀ {letters set : List Char},
    (∀ c ∈ letters, isFlag c = true) → set.Pairwise (· < ·) → (set ++ letters).Nodup →
      ∃ out, collectFlags source flags set letters = .ok out
  | [], set, _, _, _ => ⟨set, rfl⟩
  | c :: letters, set, hflags, hset, hnodup => by
    obtain ⟨hc, hletters⟩ := List.forall_mem_cons.1 hflags
    have hnew : c ∉ set := fun hm => (List.nodup_append.1 hnodup).2.2 c hm c List.mem_cons_self rfl
    have hperm : (addFlag c set ++ letters).Perm (set ++ c :: letters) :=
      ((addFlag_perm hnew).append_right letters).trans List.perm_middle.symm
    obtain ⟨out, hout⟩ := exists_collectFlags source flags hletters (pairwise_addFlag hset) (hperm.nodup_iff.2 hnodup)
    exact ⟨out, by simp [collectFlags, hc, hnew, hout]⟩

/-- Letters that are collected extend flags to the same flags. -/
theorem extendFlags_of_collectFlags : ∀ {letters set : List Char}, collectFlags source flags set letters = .ok out →
    extendFlags set letters = .ok out
  | [], _, h => h
  | c :: letters, set, h => by
    unfold collectFlags at h
    split at h
    · cases h
    · next hc =>
      split at h
      · cases h
      · rw [extendFlags, if_pos (by simpa using hc)]
        exact extendFlags_of_collectFlags h

/-- Extra flags of a record compile its bare source once more. -/
theorem withMembers_flags {q : Pattern} (hsource : splitLiteral source.toList = none)
    (hq : compile source [] = .ok q) (hextend : extendFlags [] flags.toList = .ok out) :
    withMembers source q [("pattern", .str source), ("flags", .str flags)] = compile source out := by
  obtain ⟨-, hflags, hname, hinvert⟩ := compile_ok hq
  have hof : sourceOf source = source := by rw [sourceOf, hsource]
  cases hout : compile source out with
  | error e => simp [withMembers, hflags, hextend, hof, hout]
  | ok p =>
    obtain ⟨-, -, hn, hi⟩ := compile_ok hout
    have hself : { p with name := q.name, invert := q.invert } = p := by rw [hname, hinvert, ← hn, ← hi]
    simp [withMembers, hflags, hextend, hof, hout, hself]

/-- **The record form asks more than the literal form.** Take a source that does not read as a literal itself, and
distinct flag letters. The record of both is read as a pattern if and only if the literal is read as this pattern and,
besides, the source alone, without the flags, is a regular expression. -/
theorem record_iff_literal (hsource : splitLiteral source.toList = none)
    (hflags : ∀ c ∈ flags.toList, isFlag c = true) (hnodup : flags.toList.Nodup) (p : Pattern) :
    ofJson (.obj [("pattern", .str source), ("flags", .str flags)]) = .ok p ↔
      (∃ q, parse source = .ok q) ∧ parse ("/" ++ source ++ "/" ++ flags) = .ok p := by
  obtain ⟨out, hcollect⟩ := exists_collectFlags source flags hflags .nil hnodup
  have hliteral : parse ("/" ++ source ++ "/" ++ flags) = compile source out := by
    have hsplit := splitLiteral_literal source hflags
    rw [String.ofList_toList] at hsplit
    rw [parse, hsplit]
    simp only [String.ofList_toList, make, hcollect, ok_bind]
  have hbare : parse source = compile source [] := by
    rw [parse, hsource]
    rfl
  have hrecord : ∀ q, parse source = .ok q →
      withMembers source q [("pattern", .str source), ("flags", .str flags)] = compile source out :=
    fun q hq => withMembers_flags hsource (hbare ▸ hq) (extendFlags_of_collectFlags hcollect)
  have hread : ofJson (.obj [("pattern", .str source), ("flags", .str flags)]) =
      parse source >>= fun q => withMembers source q [("pattern", .str source), ("flags", .str flags)] := rfl
  rw [hread, hliteral]
  constructor
  · intro h
    obtain ⟨q, hq, hp⟩ := bind_eq_ok.1 h
    exact ⟨⟨q, hq⟩, (hrecord q hq).symm.trans hp⟩
  · rintro ⟨⟨q, hq⟩, hp⟩
    exact bind_eq_ok.2 ⟨q, hq, (hrecord q hq).trans hp⟩

/-- An open parenthesis in a comment: the comment is one only under the flag `x`, so the literal is read and the record
is refused. -/
theorem not_record_comment :
    splitLiteral "a # (".toList = none ∧ (∀ c ∈ "x".toList, isFlag c = true) ∧ "x".toList.Nodup ∧
      (∃ p, parse "/a # (/x" = .ok p) ∧
      ∀ p, ofJson (.obj [("pattern", .str "a # ("), ("flags", .str "x")]) ≠ .ok p := by
  have hsource : splitLiteral "a # (".toList = none := by decide
  have hflags : ∀ c ∈ "x".toList, isFlag c = true := by simp [isFlag, inlineFlags]
  have hnodup : "x".toList.Nodup := by decide
  refine ⟨hsource, hflags, hnodup, ⟨_, by rfl⟩, fun p hp => ?_⟩
  obtain ⟨⟨q, hq⟩, -⟩ := (record_iff_literal hsource hflags hnodup p).1 hp
  have hbare : parse "a # (" = .error (.notRegular "a # (") := by rfl
  rw [hbare] at hq
  cases hq

end Pattern
end Rulebook
