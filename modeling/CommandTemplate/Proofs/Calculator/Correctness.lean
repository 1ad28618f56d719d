import CommandTemplate.Proofs.Calculator.Completeness
import CommandTemplate.Proofs.Calculator.Lexing
import CommandTemplate.Proofs.Calculator.Soundness

/-!
The calculator and its grammar.

`evaluate_eq_ok_iff` puts together what is said of the tokens of a text and of their derivations.
-/

namespace CommandTemplate.Calculator

/-- An expression has a value just if its tokens have a derivation with this value in which nothing
lies too deep. -/
theorem evaluate_eq_ok_iff {expression : String} {value : Float} :
    evaluate expression = .ok value ↔
      ∃ d : Sum, Lexes expression.toList d.tokens ∧ d.nesting < maxDepth ∧ d.value = value := by
  constructor
  · intro h
    obtain ⟨placed, hplaced, h⟩ := bind_eq_ok.1 h
    obtain ⟨f, hparse, h⟩ := bind_eq_ok.1 h
    cases h
    obtain ⟨d, htokens, rfl, hnesting⟩ := derivation_of_parse hparse
    exact ⟨d, htokens ▸ lexes_of_tokenizeFrom hplaced, hnesting, d.value_formula.symm⟩
  · rintro ⟨d, hlexes, hnesting, rfl⟩
    obtain ⟨placed, hplaced, htokens⟩ := tokenizeFrom_of_lexes hlexes 0
    rw [evaluate, tokenize, hplaced, ← d.value_formula]
    show (Formula.parse placed >>= _) = _
    rw [parse_of_derivation d htokens hnesting]
    rfl

end CommandTemplate.Calculator
