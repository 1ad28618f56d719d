import CommandTemplate.Proofs.Number.Integer
import CommandTemplate.Template.Parser

/-!
Identifiers: the names of parameters and the numbers of arguments.

`Item.IsIdentifier` says which of them there are and `Item.identifierText` how they are written.
`isIdentifier_of_identifierItem` and `identifierItem_identifierText` say that these are the
identifiers that are read.
-/

namespace CommandTemplate

open Text Number

/-! ### Numbers of arguments -/

/-- Digits, perhaps with a hyphen for all arguments from there on. -/
def argumentText (digits : List Char) (toEnd : Bool) : List Char :=
  digits ++ if toEnd then ['-'] else []

/-- The number of an argument is written with digits and a dash. -/
theorem of_mem_argumentText {digits : List Char} {toEnd : Bool} {c : Char}
    (h : c ∈ argumentText digits toEnd) : c ∈ digits ∨ c = '-' := by
  rcases List.mem_append.1 h with h | h
  · exact .inl h
  · split at h
    · exact .inr (List.mem_singleton.1 h)
    · cases h

/-- Is a text the number of an argument? -/
def NamesArgument (text : List Char) : Prop :=
  ∃ digits toEnd, digits ≠ [] ∧ (∀ c ∈ digits, c.isDigit = true) ∧
    text = argumentText digits toEnd

namespace Template

/-- What numbers an argument is digits, perhaps with a dash behind them. -/
theorem of_argumentDigits? {text digits : List Char} {toEnd : Bool}
    (h : argumentDigits? text = some (digits, toEnd)) :
    digits ≠ [] ∧ (∀ c ∈ digits, c.isDigit = true) ∧ text = argumentText digits toEnd := by
  have hsplit := List.takeWhile_append_dropWhile (p := Char.isDigit) (l := text)
  have hall := List.all_takeWhile (l := text) (p := Char.isDigit)
  unfold argumentDigits? at h
  split at h
  · cases h
  · next hend hne =>
    cases h
    rw [hend, List.append_nil] at hsplit
    exact ⟨hne, List.all_eq_true.1 hall, by rw [argumentText, if_neg Bool.false_ne_true,
      List.append_nil, hsplit]⟩
  · next hend hne =>
    cases h
    rw [hend] at hsplit
    exact ⟨hne, List.all_eq_true.1 hall, by rw [argumentText, if_pos rfl, hsplit]⟩
  · cases h

/-- Digits with or without a dash number an argument. -/
theorem argumentDigits?_argumentText {digits : List Char} (hne : digits ≠ [])
    (hall : ∀ c ∈ digits, c.isDigit = true) (toEnd : Bool) :
    argumentDigits? (argumentText digits toEnd) = some (digits, toEnd) := by
  have htake : (argumentText digits toEnd).takeWhile Char.isDigit = digits := by
    rw [argumentText, List.takeWhile_append_of_pos hall]
    cases toEnd <;> simp
  have hdrop : (argumentText digits toEnd).dropWhile Char.isDigit =
      if toEnd then ['-'] else [] := by
    rw [argumentText, List.dropWhile_append_of_pos hall]
    cases toEnd <;> simp
  unfold argumentDigits?
  rw [htake, hdrop]
  cases toEnd <;> cases digits <;> simp_all

/-- All other identifiers are names. -/
theorem argumentDigits?_eq_none_iff {text : List Char} :
    argumentDigits? text = none ↔ ¬ NamesArgument text := by
  constructor
  · rintro h ⟨digits, toEnd, hne, hall, rfl⟩
    rw [argumentDigits?_argumentText hne hall] at h
    cases h
  · intro h
    cases hd : argumentDigits? text with
    | none => rfl
    | some d => exact absurd ⟨d.1, d.2, of_argumentDigits? hd⟩ h

end Template

/-! ### Identifiers -/

/-- The characters of the names of parameters. -/
def isNameChar (c : Char) : Bool :=
  c.isLower || c.isDigit || c = '_' || c = '-'

/-- Names are of plain characters in lower case. -/
theorem ascii_of_isNameChar {c : Char} (h : isNameChar c = true) :
    c.toNat < 128 ∧ ¬ c.isUpper = true := by
  simp only [isNameChar, Bool.or_eq_true, decide_eq_true_eq] at h
  rcases h with ((h | h) | rfl) | rfl
  · have := isLower_iff.1 h
    exact ⟨by omega, not_isUpper_of_isLower h⟩
  · have := isDigit_iff.1 h
    exact ⟨by omega, not_isUpper_of_isDigit h⟩
  · decide
  · decide

namespace Item

/-- A name of a parameter or the number of an argument. -/
inductive IsIdentifier : Item → Prop
  | name {name : String} : name ≠ "" → (∀ c ∈ name.toList, isNameChar c = true) →
    ¬ NamesArgument name.toList → IsIdentifier (.identifier name)
  | argument {index : Nat} {toEnd : Bool} : 1 ≤ index → index < 0x10000000000000000 →
    IsIdentifier (.argument index toEnd)

/-- How an identifier is written. -/
def identifierText : Item → List Char
  | .identifier name => name.toList
  | .argument index toEnd => argumentText (Nat.toDigits 10 index) toEnd
  | _ => []

/-- An identifier is written with characters of identifiers only. -/
theorem isIdentifierChar_of_mem {item : Item} (h : item.IsIdentifier) :
    ∀ c ∈ item.identifierText, Template.isIdentifierChar c = true := by
  intro c hc
  cases h with
  | name hne hchars hnames =>
    have := hchars c hc
    simp only [isNameChar, Bool.or_eq_true, decide_eq_true_eq] at this
    simp only [Template.isIdentifierChar, Bool.or_eq_true, decide_eq_true_eq, isAlphanum_iff,
      isAlpha_iff]
    rcases this with ((h | h) | h) | h <;> simp [h]
  | argument =>
    rcases of_mem_argumentText hc with hc | rfl
    · have hdigit := isAlphanum_iff.2 (.inr (isDigit_of_mem_toDigits c hc))
      simp [Template.isIdentifierChar, hdigit]
    · decide

end Item

namespace Template

/-- In lower case a character of identifiers is one of names. -/
theorem isNameChar_toLower {c : Char} (h : isIdentifierChar c = true) :
    isNameChar c.toLower = true := by
  by_cases hc : c.isAlpha = true
  · simp [isNameChar, isLower_toLower hc]
  · have hupper : ¬ c.isUpper = true := fun hu => hc (isAlpha_iff.2 (.inl hu))
    rw [toLower_of_not_isUpper hupper]
    simp only [isIdentifierChar, Bool.or_eq_true, decide_eq_true_eq, isAlphanum_iff] at h
    simp only [isNameChar, Bool.or_eq_true, decide_eq_true_eq]
    rcases h with ((h | h) | h) | h
    · exact absurd h hc
    · exact .inl (.inl (.inr h))
    · exact .inl (.inr h)
    · exact .inr h

/-- Lower-case letters do not make a text the number of an argument. -/
theorem namesArgument_of_map_toLower {text : List Char}
    (h : NamesArgument (text.map Char.toLower)) : NamesArgument text := by
  obtain ⟨digits, toEnd, hne, hall, htext⟩ := h
  have hself : text.map Char.toLower = text := by
    refine (List.map_congr_left fun c hc => toLower_eq_self ?_).trans (List.map_id' text)
    have hmem : c.toLower ∈ argumentText digits toEnd := htext ▸ List.mem_map_of_mem hc
    rcases of_mem_argumentText hmem with hm | hm
    · exact not_isLower_of_isDigit (hall _ hm)
    · rw [hm]
      decide
  exact ⟨digits, toEnd, hne, hall, hself ▸ htext⟩

/-- What is read as an identifier is one. -/
theorem isIdentifier_of_identifierItem {text : List Char} {start : Nat} {item : Item}
    (hchars : ∀ c ∈ text, isIdentifierChar c = true)
    (h : identifierItem text start = .ok item) : item.IsIdentifier := by
  unfold identifierItem at h
  split at h
  · cases h
  next hne =>
  split at h
  · next hnone =>
    cases h
    refine .name ?_ ?_ ?_
    · simpa using hne
    · intro c hc
      rw [String.toList_ofList] at hc
      obtain ⟨d, hd, rfl⟩ := List.mem_map.1 hc
      exact isNameChar_toLower (hchars d hd)
    · rw [String.toList_ofList]
      -- lower case makes no number of a name
      exact fun hn => argumentDigits?_eq_none_iff.1 hnone (namesArgument_of_map_toLower hn)
  · split at h
    · cases h
    · cases h
    · next index hzero hindex =>
      cases h
      obtain ⟨-, hlt⟩ := Option.filter_eq_some_iff.1 hindex
      exact .argument (Nat.pos_of_ne_zero hzero) (by simpa using hlt)

/-- An identifier is read where it is written. -/
theorem identifierItem_identifierText {item : Item} (h : item.IsIdentifier) (start : Nat) :
    identifierItem item.identifierText start = .ok item := by
  cases h with
  | @name name hne hchars hnames =>
    -- the name is in lower case, so reading it changes nothing
    have hupper : ∀ c ∈ name.toList, ¬ c.isUpper = true := by
      intro c hc hu
      have := isUpper_iff.1 hu
      have hchar := hchars c hc
      simp only [isNameChar, Bool.or_eq_true, decide_eq_true_eq] at hchar
      rcases hchar with ((h | h) | rfl) | rfl
      · exact not_isUpper_of_isLower h hu
      · exact not_isUpper_of_isDigit h hu
      · exact absurd hu (by decide)
      · exact absurd hu (by decide)
    show identifierItem name.toList start = _
    rw [identifierItem, if_neg (by simpa using hne), argumentDigits?_eq_none_iff.2 hnames]
    show Except.ok (Item.identifier _) = _
    rw [map_toLower_eq_self hupper, String.ofList_toList]
  | @argument index toEnd hpos hlt =>
    show identifierItem (argumentText _ _) start = _
    rw [identifierItem, if_neg (by simp [argumentText]),
      argumentDigits?_argumentText Nat.toDigits_ne_nil isDigit_of_mem_toDigits]
    dsimp only
    rw [readUnsigned?_toDigits hlt]
    split
    · next h => cases h
    · next h => cases h; omega
    · next h => cases h; rfl

end Template

end CommandTemplate
