/-!
# Pieces of a text between separators

`Text.pieces` cuts a text at every separator and `Text.join` puts pieces together again.

* `join_pieces`: nothing but the separators is lost.
-/

namespace Rulebook
namespace Text

/-- The pieces of a text between separators; there is always one more than there are separators. -/
def pieces (separator : Char) : List Char → List (List Char)
  | [] => [[]]
  | c :: rest =>
    if c = separator then [] :: pieces separator rest
    else
      match pieces separator rest with
      | [] => [[c]]
      | piece :: more => (c :: piece) :: more

/-- Pieces joined by separators. -/
def join (separator : Char) : List (List Char) → List Char
  | [] => []
  | [piece] => piece
  | piece :: rest => piece ++ separator :: join separator rest

/-- There is at least one piece. -/
theorem pieces_ne_nil (separator : Char) (text : List Char) : pieces separator text ≠ [] := by
  cases text with
  | nil => simp [pieces]
  | cons c rest =>
    unfold pieces
    split
    · simp
    · split <;> simp

/-- Cutting a text and joining the pieces gives the text. -/
theorem join_pieces (separator : Char) (text : List Char) : join separator (pieces separator text) = text := by
  induction text with
  | nil => rfl
  | cons c rest ih =>
    unfold pieces
    split
    · next h =>
      subst h
      match hp : pieces c rest with
      | [] => exact absurd hp (pieces_ne_nil _ _)
      | piece :: more => rw [hp] at ih; simp [join, ih]
    · match hp : pieces separator rest with
      | [] => exact absurd hp (pieces_ne_nil _ _)
      | [piece] => rw [hp] at ih; simp_all [join]
      | piece :: next :: more => rw [hp] at ih; simp_all [join]

end Text
end Rulebook
