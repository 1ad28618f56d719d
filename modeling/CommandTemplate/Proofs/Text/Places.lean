import CommandTemplate.Proofs.Text.Scanning

/-!
Places of a text.

The place of a character is the number of characters in front of it.  A scanner `StandsIn` a text
if what it has left is found there at its position.  It still does after moving on
(`StandsIn.of_leadsTo`), so what is known of the next characters of a scanner is known of a place
of the text.
-/

namespace CommandTemplate.Text

/-- Is `c` the character in front of a place? -/
def PrecededBy (text : List Char) (c : Char) (place : Nat) : Prop :=
  ∃ p, place = p + 1 ∧ text[p]? = some c

namespace Scanner

/-- What a scanner has left stands in a text, at its position and in front of `after`. -/
structure StandsIn (text after : List Char) (s : Scanner) : Prop where
  position_le : s.position ≤ text.length
  drop_eq : text.drop s.position = s.rest ++ after

/-- Reading begins in front of the whole text. -/
theorem standsIn_ofString (text : String) : StandsIn text.toList [] (.ofString text) :=
  ⟨Nat.zero_le _, (List.append_nil _).symm⟩

namespace StandsIn

variable {text after rest : List Char} {c : Char} {p : Nat} {s t : Scanner}

/-- At the position of a scanner stands its next character. -/
theorem getElem?_eq (h : StandsIn text after s) :
    text[s.position]? = (s.rest ++ after).head? := by
  rw [← h.drop_eq, List.head?_drop]

/-- The next character of a scanner stands at its position if nothing comes after. -/
theorem getElem?_eq_peek? (h : StandsIn text [] s) : text[s.position]? = s.peek? := by
  rw [h.getElem?_eq, List.append_nil]
  rfl

/-- A text ends behind what is left and what comes after. -/
theorem length_eq (h : StandsIn text after s) :
    s.position + s.rest.length + after.length = text.length := by
  have hlength := congrArg List.length h.drop_eq
  have := h.position_le
  rw [List.length_drop, List.length_append] at hlength
  omega

theorem tail (h : StandsIn text after ⟨c :: rest, p⟩) : StandsIn text after ⟨rest, p + 1⟩ := by
  have hlength := h.length_eq
  have hdrop := congrArg List.tail h.drop_eq
  rw [List.tail_drop] at hdrop
  simp only [List.length_cons] at hlength
  exact ⟨by dsimp only; omega, hdrop⟩

/-- A scanner stays in its text while it moves on. -/
theorem of_leadsTo (h : StandsIn text after s) (hst : LeadsTo s t) : StandsIn text after t := by
  induction hst with
  | refl => exact h
  | step _ ih => exact ih h.tail

theorem precededBy (h : StandsIn text after ⟨c :: rest, p⟩) : PrecededBy text c (p + 1) :=
  ⟨p, rfl, h.getElem?_eq⟩

/-- An accepted character is the one in front of the new position. -/
theorem precededBy_of_accept {u : Past s} (h : StandsIn text after s) (hu : s.accept c = some u) :
    PrecededBy text c u.1.position := by
  obtain ⟨rest, p, rfl, hu⟩ := of_accept hu
  rw [hu]
  exact h.precededBy

/-- The front of what is left stands at the same place. -/
theorem front {part : List Char} (h : StandsIn text after ⟨part ++ rest, p⟩) :
    StandsIn text (rest ++ after) ⟨part, p⟩ :=
  ⟨h.position_le, h.drop_eq.trans (List.append_assoc _ _ _)⟩

/-- What follows the front stands behind it. -/
theorem behind {part : List Char} (h : StandsIn text after ⟨part ++ rest, p⟩) :
    StandsIn text after ⟨rest, p + part.length⟩ := by
  induction part generalizing p with
  | nil => exact h
  | cons c part ih =>
    rw [List.length_cons, Nat.add_comm part.length, ← Nat.add_assoc]
    exact ih h.tail

end StandsIn

end Scanner

end CommandTemplate.Text
