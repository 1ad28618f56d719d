import CommandTemplate.Proofs.Calculator.Lexing

/-!
Where tokens are written.

`Lexes` says which tokens a text has.  Here it is said where they are: a token is placed at the
first of the characters that spell it, and the tokens in front of it are those of the text in front
of these characters (`IsPlaced`, `isPlaced_of_tokenizeFrom`).  A text has no tokens where there is a
character that belongs to none, and the first one of them is reported unless a number is malformed
that stands before it (`Error.SpoilsText`).
-/

namespace CommandTemplate.Calculator

/-! ### Spellings -/

/-- Do the characters write the token? -/
inductive Spells : List Char → Token → Prop
  | sign {c : Char} {token : Token} : signToken? c = some token → Spells [c] token
  | number {run : List Char} : IsLiteral run → Spells run (.number (literalValue run))
  | name {run : List Char} : run ≠ [] → (∀ c ∈ run, c.isAlpha = true) →
    Spells run (.name (String.ofList (run.map Char.toLower)))

/-- The characters that make the spelling of a token longer. -/
def Token.takes : Token → Char → Bool
  | .number _, c => isNumberChar c
  | .name _, c => c.isAlpha
  | _, _ => false

variable {run s : List Char} {token : Token}

/-- What is no number is quoted as it is written, in lower case. -/
theorem Spells.text_eq (h : Spells run token) :
    (∃ value, token = .number value) ∨ token.text = String.ofList (run.map Char.toLower) := by
  cases h with
  | number => exact .inl ⟨_, rfl⟩
  | name => exact .inr rfl
  | @sign c _ h =>
    refine .inr ?_
    unfold signToken? at h
    split at h <;> cases h <;> rfl

/-- A token that is spelled out is the first one of a text. -/
theorem Spells.lexes {tokens : List Token} (h : Spells run token)
    (hend : ∀ c ∈ s.head?, token.takes c = false) (hs : Lexes s tokens) :
    Lexes (run ++ s) (token :: tokens) := by
  cases h with
  | sign h => exact .sign h hs
  | number h => exact .number h hend hs
  | name hne h => exact .name hne h hend hs

/-! ### Places -/

/-- Is each of the tokens of a text that begins at a position placed where it is written? -/
def IsPlaced (position : Nat) (s : List Char) (placed : List Placed) : Prop :=
  ∀ before token q after, placed = before ++ (token, q) :: after →
    ∃ front run back, s = front ++ run ++ back ∧ q = position + front.length ∧
      Lexes front (unplaced before) ∧ Spells run token ∧ Lexes back (unplaced after)

/-- A blank in front moves all tokens by one place. -/
theorem IsPlaced.blank {position : Nat} {c : Char} {placed : List Placed}
    (hblank : Text.isBlank c = true) (h : IsPlaced (position + 1) s placed) :
    IsPlaced position (c :: s) placed := by
  intro before token q after hplaced
  obtain ⟨front, run, back, rfl, rfl, hfront, hrun, hback⟩ := h before token q after hplaced
  refine ⟨c :: front, run, back, rfl, ?_, .blank hblank hfront, hrun, hback⟩
  rw [List.length_cons]
  omega

/-- A token in front moves the others by its length. -/
theorem IsPlaced.cons {position : Nat} {placed : List Placed} (hrun : Spells run token)
    (hend : ∀ c ∈ s.head?, token.takes c = false) (hs : Lexes s (unplaced placed))
    (h : IsPlaced (position + run.length) s placed) :
    IsPlaced position (run ++ s) ((token, position) :: placed) := by
  intro before other q after hplaced
  cases before with
  | nil =>
    cases hplaced
    exact ⟨[], run, s, rfl, rfl, .nil, hrun, hs⟩
  | cons first before =>
    cases hplaced
    obtain ⟨front, run', back, rfl, rfl, hfront, hrun', hback⟩ := h before other q after rfl
    refine ⟨run ++ front, run', back, ?_, ?_, hrun.lexes (fun c hc => hend c ?_) hfront, hrun',
      hback⟩
    · simp only [List.append_assoc]
    · rw [List.length_append]
      omega
    · -- what follows the token in front of the other one follows it in the whole text
      obtain ⟨front', rfl⟩ := List.head?_eq_some_iff.1 hc
      rfl

/-- Tokens are placed where they are written. -/
theorem isPlaced_of_tokenizeFrom {position : Nat} {placed : List Placed}
    (h : tokenizeFrom position s = .ok placed) : IsPlaced position s placed := by
  fun_induction tokenizeFrom position s generalizing placed with
  | case1 position =>
    cases h
    intro before token q after hplaced
    simp at hplaced
  | case2 position c s hblank ih => exact (ih h).blank hblank
  -- a sign, which no character makes longer
  | case3 position c s hblank token hsign ih =>
    obtain ⟨rest, hrest, h⟩ := bind_eq_ok.1 h
    cases h
    have htakes (d : Char) : token.takes d = false := by
      unfold signToken? at hsign
      split at hsign <;> cases hsign <;> rfl
    exact .cons (.sign hsign) (fun d _ => htakes d) (lexes_of_tokenizeFrom hrest) (ih hrest)
  -- a malformed number, and then a number as it should be
  | case4 => cases h
  | case5 position c s hblank hsign hnumber literal value hvalue =>
    rename_i ih
    obtain ⟨rest, hrest, h⟩ := bind_eq_ok.1 h
    cases h
    obtain ⟨hchars, hs⟩ := run_takeWhile hnumber s
    have hliteral := (readFloat?_isSome_iff hchars).1 (by rw [hvalue]; rfl)
    have hspells : Spells literal (.number value) := by
      have hread : literalValue literal = value := by rw [literalValue, hvalue]; rfl
      exact hread ▸ .number hliteral
    rw [hs]
    exact .cons hspells head?_dropWhile (lexes_of_tokenizeFrom hrest) (ih hrest)
  -- a name
  | case6 position c s hblank hsign hnumber halpha name =>
    rename_i ih
    obtain ⟨rest, hrest, h⟩ := bind_eq_ok.1 h
    cases h
    obtain ⟨hchars, hs⟩ := run_takeWhile halpha s
    have hspells := Spells.name (List.cons_ne_nil _ _) hchars
    rw [hs]
    exact .cons hspells head?_dropWhile (lexes_of_tokenizeFrom hrest) (ih hrest)
  | case7 => cases h

/-! ### Characters that belong to no token -/

/-- Can the character stand in an expression? -/
def belongs (c : Char) : Bool :=
  Text.isBlank c || c.isAlpha || c.isDigit || ['.', '+', '-', '*', '/', '^', '(', ')'].contains c

/-- A character belongs to an expression if it is blank, a sign, or may be in a number or a name. -/
theorem belongs_iff {c : Char} : belongs c = true ↔
    Text.isBlank c = true ∨ (signToken? c).isSome = true ∨ isNumberChar c = true ∨
      c.isAlpha = true := by
  constructor
  · intro h
    simp only [belongs, Bool.or_eq_true, List.contains_iff_mem, List.mem_cons, List.not_mem_nil,
      or_false] at h
    rcases h with ((h | h) | h) | rfl | rfl | rfl | rfl | rfl | rfl | rfl | rfl
    · exact .inl h
    · exact .inr (.inr (.inr h))
    · exact .inr (.inr (.inl (by simp [isNumberChar, h])))
    · exact .inr (.inr (.inl rfl))
    all_goals exact .inr (.inl rfl)
  · rintro (h | h | h | h)
    · simp [belongs, h]
    · obtain ⟨token, h⟩ := Option.isSome_iff_exists.1 h
      unfold signToken? at h
      split at h <;> first | rfl | cases h
    · simp only [isNumberChar, Bool.or_eq_true, decide_eq_true_eq] at h
      rcases h with h | rfl
      · simp [belongs, h]
      · rfl
    · simp [belongs, h]

/-- Does the fault say what keeps a text that begins at a position from having tokens? -/
def Error.SpoilsText (position : Nat) (s : List Char) : Error → Prop
  | .unexpectedChar c q => ∃ front back, s = front ++ c :: back ∧ q = position + front.length ∧
    belongs c = false ∧ ∀ d ∈ front, belongs d = true
  | .invalidNumber _ => True
  | .empty | .unexpectedToken _ _ | .unexpectedEnd | .unknownFunction _ | .tooDeep => False

/-- A fault behind characters that belong to an expression is a fault of the whole. -/
theorem Error.SpoilsText.append {position : Nat} {fault : Error}
    (hrun : ∀ c ∈ run, belongs c = true) (h : fault.SpoilsText (position + run.length) s) :
    fault.SpoilsText position (run ++ s) := by
  cases fault with
  | unexpectedChar c q =>
    obtain ⟨front, back, rfl, rfl, hc, hfront⟩ := h
    refine ⟨run ++ front, back, (List.append_assoc ..).symm, ?_, hc, ?_⟩
    · rw [List.length_append]
      omega
    · exact List.forall_mem_append.2 ⟨hrun, hfront⟩
  | invalidNumber => trivial
  | _ => exact h.elim

/-- What spoils a text is where the tokens end. -/
theorem spoilsText_of_tokenizeFrom {position : Nat} {fault : Error}
    (h : tokenizeFrom position s = .error fault) : fault.SpoilsText position s := by
  -- what is passed over in each case belongs to an expression, up to the last one
  fun_induction tokenizeFrom position s with
  | case1 => cases h
  | case2 position c s hblank ih =>
    exact (ih h).append (List.forall_mem_singleton.2 (belongs_iff.2 (.inl hblank)))
  | case3 position c s hblank token hsign ih =>
    have hs := error_of_bind h fun _ => ⟨_, rfl⟩
    have hc : belongs c = true := belongs_iff.2 (.inr (.inl (Option.isSome_of_eq_some hsign)))
    exact (ih hs).append (List.forall_mem_singleton.2 hc)
  | case4 =>
    cases h
    trivial
  | case5 position c s hblank hsign hnumber literal value hvalue =>
    rename_i ih
    have hrest := error_of_bind h fun _ => ⟨_, rfl⟩
    obtain ⟨hchars, hs⟩ := run_takeWhile hnumber s
    rw [hs]
    exact (ih hrest).append fun d hd => belongs_iff.2 (.inr (.inr (.inl (hchars d hd))))
  | case6 position c s hblank hsign hnumber halpha name =>
    rename_i ih
    have hrest := error_of_bind h fun _ => ⟨_, rfl⟩
    obtain ⟨hchars, hs⟩ := run_takeWhile halpha s
    rw [hs]
    exact (ih hrest).append fun d hd => belongs_iff.2 (.inr (.inr (.inr (hchars d hd))))
  | case7 position c s hblank hsign hnumber halpha =>
    cases h
    refine ⟨[], s, rfl, rfl, ?_, by simp⟩
    rw [← Bool.not_eq_true, belongs_iff]
    rintro (h | h | h | h)
    · exact hblank h
    · rw [hsign] at h
      cases h
    · exact hnumber h
    · exact halpha h

/-! ### Texts without tokens -/

/-- A text has no tokens if and only if all of it is blank. -/
theorem lexes_nil_iff : Lexes s [] ↔ ∀ c ∈ s, Text.isBlank c = true := by
  constructor
  · intro h
    generalize htokens : ([] : List Token) = tokens at h
    induction h with
    | nil => simp
    | blank hblank _ ih => exact List.forall_mem_cons.2 ⟨hblank, ih htokens⟩
    | _ => cases htokens
  · intro h
    induction s with
    | nil => exact .nil
    | cons c s ih =>
      obtain ⟨hblank, hs⟩ := List.forall_mem_cons.1 h
      exact .blank hblank (ih hs)

end CommandTemplate.Calculator
