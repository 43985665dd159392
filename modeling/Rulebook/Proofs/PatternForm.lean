import Rulebook.Proofs.Pattern
import Rulebook.Proofs.Table

/-!
# The forms of a pattern

A pattern made from a source and flag letters is read back from its form in a description, whatever its name and its
inversion; neither the order of the flag letters nor the order of the members of a record matters
(`pattern_form_stable`).
-/

namespace Rulebook
namespace Pattern

open Fallible

variable {source flags flags' : String} {members members' : Table Json} {p : Pattern}

/-- The order of the flag letters does not matter. -/
theorem make_perm (hperm : flags.toList.Perm flags'.toList) (h : make source flags = .ok p) :
    make source flags' = .ok p := by
  obtain ⟨set, hset, hcompile⟩ := bind_eq_ok.1 h
  obtain ⟨hflags, hnodup, hout, hletters⟩ := (collectFlags_eq_ok .nil).1 hset
  have hset' : collectFlags source flags' [] flags'.toList = .ok set :=
    (collectFlags_eq_ok .nil).2
      ⟨fun c hc => hflags c (hperm.mem_iff.2 hc), hperm.nodup_iff.1 hnodup, hout, hletters.trans hperm⟩
  exact bind_eq_ok.2 ⟨set, hset', hcompile⟩

/-- The order of the members of a record does not matter. -/
theorem ofRecord_perm (hd : members.Distinct) (hperm : members.Perm members') (h : ofRecord members = .ok p) :
    ofRecord members' = .ok p := by
  unfold ofRecord at h ⊢
  rw [← Table.get?_perm hd hperm]
  split at h
  · obtain ⟨q, hq, hp⟩ := bind_eq_ok.1 h
    exact bind_eq_ok.2 ⟨q, hq, withMembers_iff.2 ((withMembers_iff.1 hp).perm Ne.symm Sets.comm hperm hd.pairwise)⟩
  · cases h
  · cases h

/-- **The forms of a pattern are stable.** A pattern of a source and flag letters, with any name and inversion, is read
back from its form in a description, and accepts the same texts. The order of the flag letters and the order of the
members of a record matter neither for success nor for the pattern. -/
theorem pattern_form_stable :
    (∀ source flags p, make source flags = .ok p → ∀ name invert,
      ∃ q, ofJson (toJson { p with name, invert }) = .ok q ∧ q = { p with name, invert } ∧
        ∀ text, q.accepts text = accepts { p with name, invert } text) ∧
    (∀ source flags flags' : String, flags.toList.Perm flags'.toList →
      ∀ p, make source flags = .ok p ↔ make source flags' = .ok p) ∧
    ∀ members members' : Table Json, members.Distinct → members.Perm members' →
      ∀ p, ofJson (.obj members) = .ok p ↔ ofJson (.obj members') = .ok p := by
  refine ⟨fun source flags p hp name invert => ?_, fun source flags flags' hperm p => ?_,
    fun members members' hd hperm p => ?_⟩
  · have hregular : Regular p := regular_of_make hp
    exact ⟨{ p with name, invert }, ofJson_toJson hregular, rfl, fun _ => rfl⟩
  · exact ⟨make_perm hperm, make_perm hperm.symm⟩
  · exact ⟨ofRecord_perm hd hperm, ofRecord_perm (hd.perm hperm) hperm.symm⟩

/-- A source between slashes with flags, and a record that ends with its text form. -/
theorem pattern_form_stable_literal :
    (∃ p, make "/a/" "sm" = .ok p ∧ make "/a/" "ms" = .ok p ∧
      ∃ q, ofJson (toJson { p with name := some "path", invert := true }) = .ok q ∧
        ∀ text, q.accepts text = accepts { p with name := some "path", invert := true } text) ∧
    ∃ p, ofJson (.obj [("flags", .str "s"), ("invert", .bool true), ("pattern", .str "/a/m")]) = .ok p ∧
      ofJson (.obj [("pattern", .str "/a/m"), ("flags", .str "s"), ("invert", .bool true)]) = .ok p := by
  obtain ⟨hback, hflags, hmembers⟩ := pattern_form_stable
  have hmake : ∃ p, make "/a/" "sm" = .ok p := ⟨_, by rfl⟩
  have hrecord : ∃ p, ofJson (.obj [("flags", .str "s"), ("invert", .bool true), ("pattern", .str "/a/m")]) = .ok p :=
    ⟨_, by rfl⟩
  obtain ⟨p, hp⟩ := hmake
  obtain ⟨r, hr⟩ := hrecord
  obtain ⟨q, hq, -, haccepts⟩ := hback _ _ p hp (some "path") true
  exact ⟨⟨p, hp, (hflags _ _ _ (by decide) p).1 hp, q, hq, haccepts⟩,
    r, hr, (hmembers _ _ (by decide) (List.perm_append_singleton _ _) r).1 hr⟩

end Pattern
end Rulebook
