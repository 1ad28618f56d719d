import CommandTemplate.Proofs.Evaluation.Steps

/-!
Templates without specials.

Such a template yields the same text whatever the parameters are (`evaluateAll_of_fixedText?`).  In
a template that was read its literals are not empty, and no two of them are neighbours.  So the text
tells what the template is: `eq_textItems_of_fixedText?`.
-/

namespace CommandTemplate.Template

/-- The text of a template without specials. -/
def fixedText? : Template → Option String
  | [] => some ""
  | .literal text :: items => (text ++ ·) <$> fixedText? items
  | _ :: _ => none

variable {t : Template} {text : String}

/-- A fixed text is what the template yields, without any query. -/
theorem evaluateAll_of_fixedText? (h : t.fixedText? = some text)
    (callCommand : Template → Evaluator) (p : Parameters) :
    Item.evaluateAll callCommand t p = pure text := by
  fun_induction fixedText? t generalizing text with
  | case1 =>
    cases h
    rfl
  | case2 first items ih =>
    obtain ⟨rest, hrest, rfl⟩ := Option.map_eq_some_iff.1 h
    rw [Item.evaluateAll, ih hrest]
    rfl
  | case3 => cases h

/-- A template without specials has a fixed text. -/
theorem exists_fixedText? (h : ∀ item ∈ t, item.isLiteral = true) :
    ∃ text, t.fixedText? = some text := by
  fun_induction fixedText? t with
  | case1 => exact ⟨"", rfl⟩
  | case2 first items ih =>
    obtain ⟨rest, hrest⟩ := ih (List.forall_mem_cons.1 h).2
    exact ⟨first ++ rest, by rw [hrest]; rfl⟩
  | case3 item items hliteral =>
    cases item with
    | literal text => exact absurd rfl (hliteral text)
    | _ => exact absurd (h _ List.mem_cons_self) Bool.false_ne_true

/-- A text that is not empty is one literal. -/
theorem textItems_toList (h : text ≠ "") : textItems text.toList = [.literal text] := by
  cases htext : text.toList with
  | nil => exact absurd (String.toList_eq_nil_iff.1 htext) h
  | cons c rest =>
    rw [textItems, ← htext, String.ofList_toList]
    exact List.cons_ne_nil c rest

/-- There is one way to read a text without specials. -/
theorem eq_textItems_of_fixedText? (hseparated : t.Separated) (hsound : ∀ item ∈ t, item.Sound)
    (h : t.fixedText? = some text) : t = textItems text.toList := by
  revert h
  fun_cases fixedText? t with
  | case1 =>
    intro h
    cases h
    rfl
  | case2 first items =>
    intro h
    obtain ⟨rest, hrest, rfl⟩ := Option.map_eq_some_iff.1 h
    have hfirst : first ≠ "" := by
      cases hsound _ List.mem_cons_self with
      | literal hne => exact hne
    revert hrest
    fun_cases fixedText? items with
    | case1 =>
      intro hrest
      cases hrest
      rw [String.append_empty, textItems_toList hfirst]
    | case2 second others =>
      -- another literal would be part of the first one
      exact absurd ⟨rfl, rfl⟩ (List.isChain_cons_cons.1 hseparated).1
    | case3 => exact nofun
  | case3 => exact nofun

end CommandTemplate.Template
