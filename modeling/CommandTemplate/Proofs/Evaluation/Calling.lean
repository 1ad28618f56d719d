import CommandTemplate.Proofs.Evaluation.FixedText
import CommandTemplate.Proofs.Evaluation.Simulation
import CommandTemplate.Proofs.Template.Printing

/-!
Templates that call a command.

`Template.calling name` replaces the text `a` by what the command `name` makes of it, so its text is
that of the command (`evaluateAll_calling`).  `$replace(a,a,name,regCustom)` is how it is written
(`parse_calling`).  With templates that put a parameter in (`parse_mention`), such templates are the
commands that show what commands do to one another.
-/

namespace CommandTemplate

open Evaluation
open Text (Scanner)

namespace Template

/-- Calls a command for the text `a`. -/
def callingItem (name : String) : Item :=
  .escaped (.call .replace
    [[.literal "a"], [.literal "a"], [.literal name], [.literal "regCustom"]] false)

def calling (name : String) : Template :=
  [callingItem name]

/-! ### Reading -/

/-- A text without an escape, a special or the ending in it stands for itself. -/
theorem textRun_append {e : Ending} {text rest : List Char} {c : Char}
    (htext : ∀ c ∈ text, c ≠ '\\' ∧ c ≠ '$' ∧ e.stops c = false) (hc : e.stops c = true)
    (p : Nat) : textRun e ⟨text ++ c :: rest, p⟩ = (text, ⟨c :: rest, p + text.length⟩) := by
  induction text generalizing p with
  | nil =>
    refine textRun_end fun d hd => ?_
    cases hd
    exact .inr hc
  | cons b text ih =>
    obtain ⟨⟨hescape, hspecial, hstop⟩, htext⟩ := List.forall_mem_cons.1 htext
    have ht := Prod.mk.inj (ih htext (p + 1))
    have hnot : ¬ (b = '$' ∨ e.stops b = true) := by simp [hspecial, hstop]
    show textRun e ⟨b :: (text ++ c :: rest), p⟩ = _
    rw [textRun, readText, if_neg hnot]
    · refine Prod.ext (congrArg (b :: ·) ht.1) (ht.2.trans ?_)
      rw [List.length_cons, Nat.add_assoc, Nat.add_comm 1]
    · exact fun heq => absurd heq hescape
    · exact fun _ _ heq => absurd heq hescape

/-- An argument that is such a text. -/
theorem readsItems_plain {d : Nat} {e : Ending} {text rest : List Char} {c : Char}
    (htext : ∀ c ∈ text, c ≠ '\\' ∧ c ≠ '$' ∧ e.stops c = false) (hc : e.stops c = true)
    (p : Nat) :
    ReadsItems d e ⟨text ++ c :: rest, p⟩ (textItems text) ⟨c :: rest, p + text.length⟩ := by
  refine .text (textRun_append htext hc p) ?_
  rintro heq
  cases heq
  exact (ne_of_stops hc).2 rfl

/-- The arguments of a call of a command, as they are written. -/
def callingText (name : List Char) : List Char :=
  'a' :: ',' :: 'a' :: ',' ::
    (name ++ [',', 'r', 'e', 'g', 'C', 'u', 's', 't', 'o', 'm', ')'])

/-- The arguments of the call are read up to its closing parenthesis. -/
theorem readsListed_callingText {name : List Char}
    (hplain : ∀ c ∈ name, c ≠ '\\' ∧ c ≠ '$' ∧ c ≠ ',' ∧ c ≠ ')') (d p : Nat) :
    ∃ q, ReadsListed d [.comma, .comma, .commaOrParenthesis, .parenthesis] 3
      ⟨callingText name, p⟩
      [[.literal "a"], [.literal "a"], textItems name, [.literal "regCustom"]] ⟨[], q⟩ := by
  have hletter rest q : ReadsItems d .comma ⟨['a'] ++ ',' :: rest, q⟩ [.literal "a"] _ :=
    readsItems_plain (by simp [Ending.stops]) rfl q
  have hname rest q :
      ReadsItems d .commaOrParenthesis ⟨name ++ ',' :: rest, q⟩ (textItems name) _ :=
    readsItems_plain (fun c hc => by simp [Ending.stops, hplain c hc]) rfl q
  have hmode q : ReadsItems d .parenthesis
      ⟨['r', 'e', 'g', 'C', 'u', 's', 't', 'o', 'm'] ++ [')'], q⟩ [.literal "regCustom"] _ :=
    readsItems_plain (by simp [Ending.stops]) rfl q
  have hmore {e : Ending} {endings : List Ending} : e :: endings ≠ [] := List.cons_ne_nil _ _
  exact ⟨_, .more (hletter _ p) hmore (.more (hletter _ _) hmore (.more (hname _ _) hmore
    (.last (hmode _) (Nat.zero_le 1))))⟩

/-- The text of such a call is read as the template. -/
theorem parse_calling {name : String} (hname : name ≠ "")
    (hplain : ∀ c ∈ name.toList, c ≠ '\\' ∧ c ≠ '$' ∧ c ≠ ',' ∧ c ≠ ')') :
    parse ("$replace(a,a," ++ name ++ ",regCustom)") = .ok (calling name) := by
  have htext : ("$replace(a,a," ++ name ++ ",regCustom)").toList =
      '$' :: (['r', 'e', 'p', 'l', 'a', 'c', 'e'] ++ '(' :: callingText name.toList) := by
    simp [callingText]
  obtain ⟨q, hlisted⟩ := readsListed_callingText hplain 1 9
  rw [textItems_toList hname] at hlisted
  have hrun : Scanner.run Char.isAlpha
      ⟨['r', 'e', 'p', 'l', 'a', 'c', 'e'] ++ '(' :: callingText name.toList, 1⟩ =
        (['r', 'e', 'p', 'l', 'a', 'c', 'e'], ⟨'(' :: callingText name.toList, 8⟩) :=
    Scanner.run_append (by simp) (by simp)
  have hsign : ReadsSign ⟨['r', 'e', 'p', 'l', 'a', 'c', 'e'] ++ '(' :: callingText name.toList, 1⟩
      false _ := .optional (by simp [Scanner.peek?])
  have hcall := ReadsSpecial.call (by decide) hsign hrun nofun
    (.plain (by decide) rfl (.listed nofun hlisted))
  have hend : ReadsItems 0 .none ⟨[], q⟩ [] ⟨[], q⟩ := .text rfl nofun
  have hreads := ReadsItems.special textRun_dollar hcall hend
  rw [← htext] at hreads
  exact parse_of_reads hreads

/-- The template that puts a parameter in. -/
theorem parse_mention {name : String} (h : (Item.identifier name).IsIdentifier) :
    parse ("$(" ++ name ++ ")") = .ok [.escaped (.replacement (.identifier name) false)] := by
  have htext : ("$(" ++ name ++ ")").toList = '$' :: '(' :: (name.toList ++ [')']) := by simp
  obtain ⟨body, hprint, hspecial⟩ := specialReads_replacement (d := 0) (by decide) h false
  obtain ⟨q, hreads⟩ := hspecial [] 1
  cases hprint
  rw [List.append_nil] at hreads
  have hend : ReadsItems 0 .none ⟨[], q⟩ [] ⟨[], q⟩ := .text rfl nofun
  have hitems : ReadsItems 0 .none (.ofString ("$(" ++ name ++ ")"))
      [.replacement (.identifier name) false] ⟨[], q⟩ := by
    rw [Scanner.ofString, htext]
    exact .special textRun_dollar hreads hend
  exact parse_of_reads hitems

/-! ### Evaluating -/

/-- The pattern `a` has the text `a` as its one match there. -/
theorem exists_letter : ∃ regex, Regex.compile "a" = .ok regex ∧
    regex.segments ['a'] = ([⟨[], ['a'], []⟩], []) := by
  have h : (Regex.compile "a").toOption.map (·.segments ['a']) =
      some ([⟨[], ['a'], []⟩], []) := by decide +kernel
  exact exists_of_toOption h

/-- The text of the command is escaped once more on its way into the template. -/
theorem evaluate_callingItem {name : String} {template : Template} {p : Parameters}
    (callCommand : Template → Evaluator)
    (htemplate : p.context.template? (Text.trim name) = some template) :
    (callingItem name).evaluate callCommand p =
      p.context.escapes.apply <$> callCommand template (p.forMatch "a" []) := by
  obtain ⟨regex, hregex, hsegments⟩ := exists_letter
  have htext (text : String) :
      Item.evaluateAll callCommand [.literal text] = fun _ => pure text := by
    funext q
    simp [Item.evaluateAll, Item.evaluate]
  have hmode : ReplaceMode.ofName (Text.trim "regCustom") = .byCommand := by decide +kernel
  -- the one match is the whole text, and it has no groups
  have hreplace : replaced callCommand .byCommand "a" "a" (fun _ => pure name) p =
      callCommand template (p.forMatch "a" []) := by
    rw [replaced_byCommand, hregex]
    show replaceByCommand callCommand regex "a" p (Text.trim name) = _
    rw [replaceByCommand, htemplate]
    simp [replaceMatches, hsegments, replaceSegments]
  have hcall : Builtin.evaluate callCommand .replace false (Item.evaluators callCommand
      [[.literal "a"], [.literal "a"], [.literal name], [.literal "regCustom"]]) p =
      callCommand template (p.forMatch "a" []) := by
    simp only [Item.evaluators, htext, Builtin.evaluate]
    rw [← hreplace, ← hmode]
    rfl
  rw [callingItem, Item.evaluate, Item.evaluate, hcall]

/-- The template does what the command of the name does for one match. -/
theorem evaluateAll_calling {name : String} {template : Template} {p : Parameters}
    (callCommand : Template → Evaluator)
    (htemplate : p.context.template? (Text.trim name) = some template) :
    Item.evaluateAll callCommand (calling name) p =
      p.context.escapes.apply <$> callCommand template (p.forMatch "a" []) := by
  rw [calling, Item.evaluateAll, evaluate_callingItem callCommand htemplate]
  simp [Item.evaluateAll]

end Template

end CommandTemplate
