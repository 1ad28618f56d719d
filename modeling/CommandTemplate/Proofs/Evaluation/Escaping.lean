import CommandTemplate.Proofs.Evaluation.Calling
import CommandTemplate.Proofs.Evaluation.Limit
import CommandTemplate.Proofs.Registry.Lines

/-!
What is escaped.

`Template.evaluate_withEscapes` says what the separators to be doubled do to a template that was
parsed: they are doubled in the texts of all its items but literals, and apart from that nothing
changes, except that the commands it calls are evaluated with the same separators.  So in a template
that calls no command what is put in is escaped once (`run_evaluate_withEscapes`).  What a command
yields is escaped in the command and then again in the template (`run_evaluate_calling`).
-/

namespace CommandTemplate

open Evaluation

/-! ### Other separators -/

namespace Parameters

theorem putAll_withEscapes (p : Parameters) (escapes : Escapes) (values : List (String × String)) :
    (p.withEscapes escapes).putAll values = (p.putAll values).withEscapes escapes := by
  induction values generalizing p with
  | nil => rfl
  | cons value values ih => exact ih (p.put value.1 value.2)

theorem forMatch_withEscapes (p : Parameters) (escapes : Escapes) (whole : String)
    (groups : List String) :
    (p.withEscapes escapes).forMatch whole groups = (p.forMatch whole groups).withEscapes escapes :=
  putAll_withEscapes { p.put argumentsName whole with arguments := [whole] } escapes _

end Parameters

/-- Parameters that differ in the separators to be doubled go through the same steps. -/
theorem simulation_withEscapes (escapes : Escapes) :
    Simulation (fun _ x y => x = y) fun p q => q = p.withEscapes escapes where
  toCongruence := congruence_eq
  arguments := by rintro p _ rfl; rfl
  document := by rintro p _ rfl; rfl
  context := by rintro p _ rfl; exact ⟨escapes, rfl⟩
  matches_rule := by rintro p _ rfl _; rfl
  withDocument := by rintro p _ rfl _; rfl
  forMatch := by rintro p _ rfl whole groups; exact p.forMatch_withEscapes escapes whole groups
  draw _ := rfl
  fetch _ _ _ _ := rfl
  prompt _ _ _ _ _ _ := rfl

/-- An item without escaped ones in it takes no notice of the separators; only the commands do that
it calls. -/
theorem Item.Sound.evaluate_withEscapes {item : Item} (h : item.Sound)
    (callCommand : Template → Evaluator) (escapes : Escapes) (p : Parameters) :
    item.evaluate callCommand (p.withEscapes escapes) =
      item.evaluate (fun template q => callCommand template (q.withEscapes escapes)) p := by
  have hsimulation := simulation_withEscapes escapes
  symm
  refine hsimulation.item ⟨?_, ?_, ?_⟩ item (fun node hnode => hnode) p _ rfl
  · rintro name _ p _ rfl
    rfl
  · -- below the top there are no escaped items
    intro inner hnode
    rcases h.of_mem_nodes hnode with h | h <;> cases h
  · intro _ _ _ hargs p q hR
    refine hsimulation.stepwise.replacing hR hargs fun _ template _ => ?_
    rintro p _ rfl
    rfl

/-! ### Templates -/

/-- What is put into a template in the place of the text of an item. -/
def Item.escape (escapes : Escapes) (item : Item) (text : String) : String :=
  if item.isLiteral then text else escapes.apply text

/-- An item at the top is evaluated without escapes, and then its text is escaped. -/
theorem Item.SoundAtTop.evaluate_withEscapes {item : Item} (h : item.SoundAtTop)
    (callCommand : Template → Evaluator) (escapes : Escapes) (p : Parameters) :
    item.evaluate callCommand (p.withEscapes escapes) = item.escape escapes <$>
      item.evaluate (fun template q => callCommand template (q.withEscapes escapes))
        (p.withEscapes {}) := by
  cases h with
  | literal _ => rfl
  | escaped hitem _ =>
    have hinner := hitem.evaluate_withEscapes callCommand escapes (p.withEscapes {})
    show escapes.apply <$> _ = escapes.apply <$> (Escapes.apply {} <$> _)
    rw [Functor.map_map]
    exact congrArg (escapes.apply <$> ·) hinner

namespace Template

/-- The text of a template from those of its items: all but those of literals are escaped. -/
def join (escapes : Escapes) (t : Template) (texts : List String) : String :=
  String.join (List.zipWith (Item.escape escapes) t texts)

/-- A template is put together of texts that are escaped one by one. -/
theorem evaluateAll_withEscapes {t : Template} (h : ∀ item ∈ t, item.SoundAtTop)
    (callCommand : Template → Evaluator) (escapes : Escapes) (p : Parameters) :
    Item.evaluateAll callCommand t (p.withEscapes escapes) = t.join escapes <$>
      t.texts (fun template q => callCommand template (q.withEscapes escapes))
        (p.withEscapes {}) := by
  induction t with
  | nil => rfl
  | cons item items ih =>
    obtain ⟨hitem, hitems⟩ := List.forall_mem_cons.1 h
    rw [Item.evaluateAll, hitem.evaluate_withEscapes, ih hitems]
    simp [texts, textsOf, join, String.join_cons]

/-- The separators are doubled in the texts of all items but literals.  Inside an item they matter
only to the commands that it calls. -/
theorem evaluate_withEscapes {source : String} {t : Template} (h : parse source = .ok t)
    (depth : Nat) (escapes : Escapes) (p : Parameters) :
    t.evaluate (depth + 1) (p.withEscapes escapes) = t.join escapes <$>
      t.texts (fun called q => called.evaluate depth (q.withEscapes escapes))
        (p.withEscapes {}) :=
  evaluateAll_withEscapes (sound_of_parse h) (evaluate depth) escapes p

/-- A template yields the texts of its items one after the other. -/
theorem evaluateAll_eq_join (callCommand : Template → Evaluator) (t : Template) (p : Parameters) :
    Item.evaluateAll callCommand t p = String.join <$> t.texts callCommand p := by
  induction t with
  | nil => rfl
  | cons item items ih =>
    rw [Item.evaluateAll, ih]
    simp [texts, textsOf, String.join_cons]

/-- What is put into a template that calls no command is escaped once, and its own text never. -/
theorem run_evaluate_withEscapes {source : String} {t : Template} (h : parse source = .ok t)
    {p : Parameters} (hcalls : (t.evaluate 0 (p.withEscapes {})).run.1 ≠ .error .exhausted)
    (depth : Nat) (escapes : Escapes) :
    let texts := (t.texts (call depth) (p.withEscapes {})).run
    (t.evaluate depth (p.withEscapes {})).run = (texts.1.map String.join, texts.2) ∧
      (t.evaluate depth (p.withEscapes escapes)).run =
        (texts.1.map (t.join escapes), texts.2) := by
  have hrun {α β : Type} (f : α → β) (x : Evaluation α) :
      (f <$> x).run = (x.run.1.map f, x.run.2) := runFrom_map f x {}
  have hended : (t.texts (call 0) (p.withEscapes {})).run.1 ≠ .error .exhausted := by
    intro hexhausted
    rw [evaluate_eq, evaluateAll_eq_join, hrun, hexhausted] at hcalls
    exact hcalls rfl
  have htexts callCommand : (t.texts callCommand (p.withEscapes {})).run =
      (t.texts (call 0) (p.withEscapes {})).run := texts_of_uncalled hended callCommand
  constructor
  · rw [evaluate_eq, evaluateAll_eq_join, hrun]
  · rw [evaluate_eq, evaluateAll_withEscapes (sound_of_parse h), hrun, htexts, htexts (call depth)]

/-- The bar in the text of a template stays, and the one that is put into it is doubled. -/
theorem run_evaluate_bar :
    let t : Template := [.literal "a|", .escaped (.replacement (.identifier "v") false)]
    let p : Parameters := { values := [("v", "|")] }
    parse "a|$(v)" = .ok t ∧ (t.evaluate 0 (p.withEscapes {})).run.1 ≠ .error .exhausted ∧
      (t.evaluate 1 (p.withEscapes { chain := true })).run.1 = .ok "a|||" := by
  intro t p
  have hreads : ReadsItems 0 .none (.ofString "a|$(v)")
      (textItems ['a', '|'] ++ [.replacement (.identifier "v") false]) ⟨[], 6⟩ := by
    refine .special rfl (.replacement ?_ (.optional ?_) rfl (.parenthesised rfl rfl))
      (.text rfl ?_) <;> decide
  have hparse : parse "a|$(v)" = .ok t := parse_of_reads hreads
  have hcalls : (t.evaluate 0 (p.withEscapes {})).run.1 ≠ .error .exhausted := by decide +kernel
  refine ⟨hparse, hcalls, ?_⟩
  rw [(run_evaluate_withEscapes hparse hcalls 1 { chain := true }).2]
  decide +kernel

/-- The text `|` of a command is put into `$replace(a,a,bar,regCustom)`, where it should be doubled
once.  It is doubled in the command, too. -/
theorem run_evaluate_calling :
    let p : Parameters :=
      { values := [("v", "|")], context := { commands := some (Registry.ofLines ["bar $(v)"]) } }
    parse "$replace(a,a,bar,regCustom)" = .ok (calling "bar") ∧
      ((calling "bar").texts (call 2) (p.withEscapes {})).run.1 = .ok ["|"] ∧
      (calling "bar").join { chain := true } ["|"] = "||" ∧
      ((calling "bar").evaluate 2 (p.withEscapes { chain := true })).run.1 = .ok "||||" := by
  intro p
  have hparse : parse ("$replace(a,a," ++ "bar" ++ ",regCustom)") = .ok (calling "bar") :=
    parse_calling (by decide) (by simp)
  have hidentifier : Item.IsIdentifier (.identifier "v") :=
    .name (by decide) (by simp [isNameChar]) (argumentDigits?_eq_none_iff.1 rfl)
  have hsplit : Registry.splitLine? "bar $(v)" = some ("bar", "$(v)") := by decide +kernel
  have hname : Registry.normalName "bar" = "bar" := by decide +kernel
  -- the registry finds the command whatever the escapes are
  have htemplate escapes : (p.withEscapes escapes).context.template? (Text.trim "bar") =
      some [.escaped (.replacement (.identifier "v") false)] := by
    show (Registry.ofLines ["bar $(v)"]).find? (Text.trim "bar") >>= Command.template? = _
    rw [Registry.ofLines_singleton hsplit hname (by decide) (parse_mention hidentifier)]
    decide +kernel
  refine ⟨hparse, ?_, rfl, ?_⟩
  · simp only [texts, calling, List.map_cons, List.map_nil, textsOf, call,
      evaluate_callingItem (evaluate 1) (htemplate {})]
    decide +kernel
  · rw [evaluate, evaluateAll_calling (evaluate 1) (htemplate _)]
    decide +kernel

end Template

end CommandTemplate
