/-!
Texts with escapes and brackets.

A backslash takes the meaning off the character behind it; `escapedText` does so with every
character of a text.  `Nests` counts the brackets of a text that are open in front of it and behind
it.  A text is `Balanced` if it closes just the brackets that it opens, so that it can stand in
brackets itself (`Balanced.bracketed`).
-/

namespace CommandTemplate

/-- A text with every character escaped. -/
def escapedText (text : List Char) : List Char :=
  text.flatMap fun c => ['\\', c]

namespace Text

/-- `Nests d s e` says that of the brackets of a text, read from left to right, `e` are open behind
it if `d` are open in front of it.  It never closes more of them than there are, and it does not end
in an escape. -/
inductive Nests : Nat → List Char → Nat → Prop where
  | nil (d : Nat) : Nests d [] d
  | escape (c : Char) {d e : Nat} {s : List Char} : Nests d s e → Nests d ('\\' :: c :: s) e
  | opening {d e : Nat} {s : List Char} : Nests (d + 1) s e → Nests d ('[' :: s) e
  | closing {d e : Nat} {s : List Char} : Nests d s e → Nests (d + 1) (']' :: s) e
  | other {c : Char} {d e : Nat} {s : List Char} : c ≠ '\\' → c ≠ '[' → c ≠ ']' → Nests d s e →
    Nests d (c :: s) e

/-- Does a text close just the brackets that it opens, without an escape at its end? -/
def Balanced (s : List Char) : Prop :=
  Nests 0 s 0

/-- A text between brackets. -/
def bracketed (s : List Char) : List Char :=
  '[' :: (s ++ [']'])

namespace Nests

variable {d e f : Nat} {s t : List Char}

theorem append (hs : Nests d s e) (ht : Nests e t f) : Nests d (s ++ t) f := by
  induction hs with
  | nil => exact ht
  | escape c _ ih => exact .escape c (ih ht)
  | opening _ ih => exact .opening (ih ht)
  | closing _ ih => exact .closing (ih ht)
  | other h₁ h₂ h₃ _ ih => exact .other h₁ h₂ h₃ (ih ht)

/-- A bracket more in front of a text is still open behind it. -/
theorem succ (h : Nests d s e) : Nests (d + 1) s (e + 1) := by
  induction h with
  | nil d => exact .nil (d + 1)
  | escape c _ ih => exact .escape c ih
  | opening _ ih => exact .opening ih
  | closing _ ih => exact .closing ih
  | other h₁ h₂ h₃ _ ih => exact .other h₁ h₂ h₃ ih

end Nests

/-- Nothing that is escaped opens or closes a bracket. -/
theorem balanced_escapedText (text : List Char) : Balanced (escapedText text) := by
  induction text with
  | nil => exact .nil 0
  | cons c text ih => exact .escape c ih

namespace Balanced

variable {s t : List Char}

theorem append (hs : Balanced s) (ht : Balanced t) : Balanced (s ++ t) :=
  Nests.append hs ht

theorem bracketed (h : Balanced s) : Balanced (bracketed s) :=
  .opening (h.succ.append (.closing (.nil 0)))

/-- A text without brackets and escapes. -/
theorem of_forall (h : ∀ c ∈ s, c ≠ '\\' ∧ c ≠ '[' ∧ c ≠ ']') : Balanced s := by
  induction s with
  | nil => exact .nil 0
  | cons c s ih =>
    obtain ⟨⟨h₁, h₂, h₃⟩, hs⟩ := List.forall_mem_cons.1 h
    exact .other h₁ h₂ h₃ (ih hs)

theorem tail {c : Char} (h : Balanced (c :: s)) (h₁ : c ≠ '\\') (h₂ : c ≠ '[') : Balanced s := by
  cases h with
  | escape => exact absurd rfl h₁
  | opening => exact absurd rfl h₂
  | other _ _ _ h => exact h

/-- What follows a text without brackets and escapes. -/
theorem of_append (h : Balanced (s ++ t)) (hs : ∀ c ∈ s, c ≠ '\\' ∧ c ≠ '[' ∧ c ≠ ']') :
    Balanced t := by
  induction s with
  | nil => exact h
  | cons c s ih =>
    obtain ⟨⟨h₁, h₂, -⟩, hs⟩ := List.forall_mem_cons.1 hs
    exact ih (h.tail h₁ h₂) hs

end Balanced

end Text

end CommandTemplate
