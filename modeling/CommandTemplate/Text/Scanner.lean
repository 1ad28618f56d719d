/-!
Reading a text character by character.

A `Scanner` is the rest of a text together with the position of its first character.
`LeadsTo` relates a scanner to those that it becomes by moving on, so `After s` is what a
function that reads from `s` leaves over; `LeadsTo.length_le` says that nothing is added.
-/

namespace CommandTemplate.Text

/-- The part of a text that is still to be read.  Positions count characters. -/
structure Scanner where
  rest : List Char
  position : Nat
  deriving Repr, DecidableEq

namespace Scanner

/-- A scanner at the beginning of a text. -/
def ofString (text : String) : Scanner :=
  ⟨text.toList, 0⟩

def hasNext (s : Scanner) : Bool :=
  !s.rest.isEmpty

/-- The next character. -/
def peek? (s : Scanner) : Option Char :=
  s.rest.head?

/-- The character after the next one. -/
def peekSecond? (s : Scanner) : Option Char :=
  s.rest.tail.head?

/-- The scanner after the next character. -/
def advance : Scanner → Scanner
  | ⟨[], p⟩ => ⟨[], p⟩
  | ⟨_ :: rest, p⟩ => ⟨rest, p + 1⟩

/-- The position of the character that was read last, or `-1` before all of them. -/
def lastPosition (s : Scanner) : Int :=
  s.position - 1

/-- The second scanner is the first one after some more characters. -/
inductive LeadsTo : Scanner → Scanner → Prop where
  | refl (s : Scanner) : LeadsTo s s
  | step {c : Char} {rest : List Char} {p : Nat} {t : Scanner} :
    LeadsTo ⟨rest, p + 1⟩ t → LeadsTo ⟨c :: rest, p⟩ t

namespace LeadsTo

theorem trans {s t u : Scanner} (h : LeadsTo s t) (k : LeadsTo t u) : LeadsTo s u := by
  induction h with
  | refl => exact k
  | step _ ih => exact .step (ih k)

/-- A scanner moves over a text and one more character. -/
theorem append {rest : List Char} (s : List Char) (c : Char) {p : Nat} :
    LeadsTo ⟨s ++ c :: rest, p⟩ ⟨rest, p + s.length + 1⟩ := by
  induction s generalizing p with
  | nil => exact .step (.refl _)
  | cons d s ih =>
    have h := ih (p := p + 1)
    rw [Nat.add_assoc p 1, Nat.add_comm 1] at h
    exact .step h

/-- A scanner that has moved on has no more characters left than before. -/
theorem length_le {s t : Scanner} (h : LeadsTo s t) : t.rest.length ≤ s.rest.length := by
  induction h with
  | refl => exact Nat.le_refl _
  | step _ ih => exact Nat.le_succ_of_le ih

/-- What is left of a scanner is the end of what was there. -/
theorem suffix {s t : Scanner} (h : LeadsTo s t) : t.rest <:+ s.rest := by
  induction h with
  | refl => exact List.suffix_refl _
  | step _ ih => exact ih.trans (List.suffix_cons _ _)

/-- The characters that are passed over are counted. -/
theorem position_add {s t : Scanner} (h : LeadsTo s t) :
    t.position + t.rest.length = s.position + s.rest.length := by
  induction h with
  | refl => rfl
  | step _ ih => simp only [List.length_cons] at ih ⊢; omega

end LeadsTo

/-- A scanner after zero or more characters of `s`. -/
abbrev After (s : Scanner) := { t : Scanner // LeadsTo s t }

namespace After

/-- No characters are passed over. -/
def none (s : Scanner) : After s :=
  ⟨s, .refl s⟩

/-- One more character in front is passed over. -/
def behind {c : Char} {rest : List Char} {p : Nat} (t : After ⟨rest, p + 1⟩) :
    After ⟨c :: rest, p⟩ :=
  ⟨t.1, .step t.2⟩

/-- What is left after a part is left after the whole. -/
def beyond {s : Scanner} (t : After s) (u : After t.1) : After s :=
  ⟨u.1, t.2.trans u.2⟩

end After

/-- The characters at the front that satisfy `p`, and the scanner after them. -/
def readWhileFrom (p : Char → Bool) :
    (rest : List Char) → (position : Nat) → List Char × After ⟨rest, position⟩
  | [], position => ([], .none ⟨[], position⟩)
  | c :: rest, position =>
    if p c then
      let (run, t) := readWhileFrom p rest (position + 1)
      (c :: run, t.behind)
    else ([], .none ⟨c :: rest, position⟩)

/-- The characters at the front that satisfy `p`, and the scanner after them. -/
def readWhile (p : Char → Bool) (s : Scanner) : List Char × After s :=
  readWhileFrom p s.rest s.position

/-- A scanner after one or more characters of `s`. -/
abbrev Past (s : Scanner) := { t : Scanner // LeadsTo s t ∧ t.rest.length < s.rest.length }

namespace Past

def after {s : Scanner} (t : Past s) : After s :=
  ⟨t.1, t.2.1⟩

/-- What is left after a part is left after the whole. -/
def beyond {s : Scanner} (t : Past s) (u : After t.1) : After s :=
  ⟨u.1, t.2.1.trans u.2⟩

end Past

/-- Passes over `c` if it comes next. -/
def accept (c : Char) : (s : Scanner) → Option (Past s)
  | ⟨[], _⟩ => .none
  | ⟨d :: rest, p⟩ =>
    if d = c then some ⟨⟨rest, p + 1⟩, .step (.refl _), Nat.lt_succ_self _⟩ else .none

end Scanner

end CommandTemplate.Text
