import CommandTemplate.Proofs.Calculator.Spelling
import CommandTemplate.Proofs.Calculator.Stopping

/-!
What is wrong with an expression, and where.

`Error.Describes` says what a fault means for the text of an expression.  An unexpected token is the
first one with which nothing begins an expression any more, and it is where the fault says it is.
What has a value is an expression (`derives_of_evaluate`), so a text that is none has a fault.
-/

namespace CommandTemplate.Calculator

open State

/-- Does the fault say what is wrong with the expression?  Malformed numbers, unknown functions and
parts that lie too deep are described by their names alone. -/
def Error.Describes (expression : String) : Error → Prop
  | .empty => ∀ c ∈ expression.toList, Text.isBlank c = true
  | .unexpectedChar c position => expression.toList[position]? = some c ∧ belongs c = false ∧
    ∀ d ∈ expression.toList.take position, belongs d = true
  | .unexpectedToken token position => ∃ before after front run back,
    Lexes expression.toList (before ++ token :: after) ∧
      Viable before ∧ ¬ Viable (before ++ [token]) ∧
      expression.toList = front ++ run ++ back ∧ front.length = position ∧
      Lexes front before ∧ Spells run token ∧ Lexes back after ∧
      ((∃ value, token = .number value) ∨ token.text = String.ofList (run.map Char.toLower))
  | .unexpectedEnd => ∃ tokens, Lexes expression.toList tokens ∧ tokens ≠ [] ∧
    Viable tokens ∧ ¬ Derives .sum tokens
  | .unknownFunction _ | .invalidNumber _ | .tooDeep => True

variable {expression : String} {placed : List Placed} {fault : Error}

/-- What has a value is an expression. -/
theorem derives_of_evaluate {value : Float} (h : evaluate expression = .ok value) :
    ∃ tokens, Lexes expression.toList tokens ∧ Derives .sum tokens := by
  obtain ⟨placed, hplaced, h⟩ := bind_eq_ok.1 h
  obtain ⟨f, hparse, -⟩ := bind_eq_ok.1 h
  obtain ⟨d, htokens, -, -⟩ := derivation_of_parse hparse
  have hlexes := lexes_of_tokenizeFrom hplaced
  rw [htokens] at hlexes
  exact ⟨d.tokens, hlexes, d.derives⟩

/-- A fault that spoils a text describes it. -/
theorem Error.SpoilsText.describes (h : fault.SpoilsText 0 expression.toList) :
    fault.Describes expression := by
  cases fault with
  | unexpectedChar c position =>
    obtain ⟨front, back, hs, hposition, hc, hfront⟩ := h
    rw [Nat.zero_add] at hposition
    refine ⟨?_, hc, ?_⟩
    · rw [hs, hposition, List.getElem?_append_right (Nat.le_refl _), Nat.sub_self]
      rfl
    · rw [hs, hposition, List.take_left']
      · exact hfront
      · rfl
  | invalidNumber => trivial
  | _ => exact h.elim

/-- A fault in reading the tokens of an expression is one of the expression. -/
theorem Error.Stops.describes (hplaced : tokenize expression = .ok placed) (hne : placed ≠ [])
    (h : fault.Stops start placed) : fault.Describes expression := by
  have hlexes := lexes_of_tokenizeFrom hplaced
  cases fault with
  | unexpectedToken token position =>
    obtain ⟨before, after, reached, rfl, hreached, hnext⟩ := h
    obtain ⟨front, run, back, hs, hposition, hfront, hrun, hback⟩ :=
      isPlaced_of_tokenizeFrom hplaced before token position after rfl
    rw [unplaced_append, unplaced_cons] at hlexes
    refine ⟨unplaced before, unplaced after, front, run, back, hlexes,
      viable_iff.2 ⟨reached, hreached⟩, fun hviable => ?_, hs, ?_, hfront, hrun, hback,
      hrun.text_eq⟩
    -- with the token in front it would have to fit
    · obtain ⟨behind, hbehind⟩ := viable_iff.1 hviable
      rw [follow_concat, hreached, Option.bind_eq_bind, Option.bind_some, hnext] at hbehind
      cases hbehind
    · rw [hposition, Nat.zero_add]
  | unexpectedEnd =>
    obtain ⟨reached, hreached, hend⟩ := h
    refine ⟨unplaced placed, hlexes, fun hnil => hne (List.map_eq_nil_iff.1 hnil),
      viable_iff.2 ⟨reached, hreached⟩, fun hsum => hend ?_⟩
    rw [derives_sum_iff, hreached] at hsum
    exact Option.some.inj hsum
  | unknownFunction | tooDeep => trivial
  | empty | unexpectedChar | invalidNumber => exact h.elim

/-- An expression without value has a fault that describes it, and it is empty just if there is
nothing in it but white space. -/
theorem describes_of_evaluate (expression : String) :
    (∀ fault, evaluate expression = .error fault → fault.Describes expression) ∧
      (evaluate expression = .error .empty ↔
        ∀ c ∈ expression.toList, Text.isBlank c = true) := by
  have hdescribes {fault : Error} (h : evaluate expression = .error fault) :
      fault.Describes expression := by
    -- there are no tokens, or they are no formula
    rcases bind_eq_error.1 h with htokenize | ⟨placed, hplaced, h⟩
    · exact (spoilsText_of_tokenizeFrom htokenize).describes
    have hparse := error_of_bind h fun _ => ⟨_, rfl⟩
    cases placed with
    | nil =>
      cases hparse
      exact lexes_nil_iff.1 (lexes_of_tokenizeFrom hplaced)
    | cons first placed =>
      have hne : first :: placed ≠ [] := List.cons_ne_nil _ _
      exact (stops_of_parse hne hparse).describes hplaced hne
  refine ⟨fun _ => hdescribes, hdescribes, fun hblank => ?_⟩
  obtain ⟨placed, hplaced, htokens⟩ := tokenizeFrom_of_lexes (lexes_nil_iff.2 hblank) 0
  obtain rfl := List.map_eq_nil_iff.1 htokens
  rw [evaluate, tokenize, hplaced]
  rfl

/-- After a name there is a parenthesis, but none that closes. -/
theorem describes_of_evaluate_closing :
    let fault := Error.unexpectedToken .closing 4
    evaluate "Sin )" = .error fault ∧ fault.Describes "Sin )" := by
  intro fault
  have htokens : tokenize "Sin )" = .ok [(.name "sin", 0), (.closing, 4)] := by
    have hchars : "Sin )".toList = ['S', 'i', 'n', ' ', ')'] := rfl
    rw [tokenize, hchars]
    simp [tokenizeFrom, Text.isBlank, signToken?, isNumberChar]
  have hparse : Formula.parse [(.name "sin", 0), (.closing, 4)] = .error fault := by
    simp [Formula.parse, readSum, readProduct, readSigned, readPower, readPrimary, maxDepth, expect,
      Token.isOpening]
    rfl
  have hevaluate : evaluate "Sin )" = .error fault := by
    rw [evaluate, htokens]
    show (Formula.parse _ >>= _) = _
    rw [hparse]
    rfl
  exact ⟨hevaluate, (describes_of_evaluate "Sin )").1 fault hevaluate⟩

end CommandTemplate.Calculator
