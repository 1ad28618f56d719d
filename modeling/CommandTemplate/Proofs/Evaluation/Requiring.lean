import CommandTemplate.Proofs.Evaluation.Ending
import CommandTemplate.Proofs.Template.Printing
import CommandTemplate.Proofs.Text.Sorting
import Mathlib.Data.List.GetD

/-!
Templates that yield nothing without a value.

Not every required identifier is missed where it has no value: it may stand in a branch that is not
taken, in a condition, or next to other text.  `Template.bound name` tells what is known of the text
of a template from the parameters lacking `name` alone.  Each function has its transfer
(`Builtin.bound`), which `Builtin.within_evaluate` shows to be sound; that items and templates are
bounded is by induction over them.  The required identifiers whose lack leaves no text are
`Template.certainIdentifiers`.  A value that is required at the top of a template is one of them
(`Template.mem_certainIdentifiers_of_mention`).
-/

namespace CommandTemplate

open Evaluation

/-! ### Bounds -/

/-- What is known of the text of an evaluation. -/
inductive Bound where
  /-- There is none. -/
  | nothing
  /-- It is empty if there is one. -/
  | blank
  | anything
  deriving Repr, DecidableEq

namespace Bound

/-- Does the bound allow a text? -/
def Allows : Bound → String → Prop
  | nothing, _ => False
  | blank, text => text = ""
  | anything, _ => True

/-- The bound of a text that must not be empty if it is required. -/
def demanded (required : Bool) : Bound → Bound
  | nothing => nothing
  | blank => if required then nothing else blank
  | anything => anything

/-- The bound of one of two texts. -/
def either : Bound → Bound → Bound
  | nothing, other => other
  | blank, nothing => blank
  | blank, other => other
  | anything, _ => anything

/-- The bound of the second of two texts that are both found. -/
def andThen : Bound → Bound → Bound
  | nothing, _ => nothing
  | blank, other | anything, other => other

/-- The bound of two texts that follow one another. -/
def append (first second : Bound) : Bound :=
  first.andThen (second.andThen (first.either second))

variable {first second bound : Bound} {text : String}

/-- What the first bound allows, one of the two does. -/
theorem Allows.either_left (h : first.Allows text) : (first.either second).Allows text := by
  cases first with
  | nothing => exact h.elim
  | blank => cases second with
    | nothing | blank => exact h
    | anything => trivial
  | anything => trivial

/-- What the second bound allows, one of the two does. -/
theorem Allows.either_right (h : second.Allows text) : (first.either second).Allows text := by
  cases first with
  | nothing => exact h
  | blank => cases second with
    | nothing => exact h.elim
    | blank | anything => exact h
  | anything => trivial

/-- One text behind another is bounded by either of their bounds, since both may be empty. -/
theorem Allows.append {a b : String} (ha : first.Allows a) (hb : second.Allows b) :
    (first.either second).Allows (a ++ b) := by
  cases first with
  | nothing => exact ha.elim
  | blank =>
    -- the first text is empty, so the whole is the second one
    obtain rfl : a = "" := ha
    rw [String.empty_append]
    exact hb.either_right
  | anything => trivial

/-- What one of several bounds allows, all of them together do. -/
theorem allows_either_of_mem {bounds : List Bound} (hbound : bound ∈ bounds)
    (h : bound.Allows text) : (bounds.foldr either nothing).Allows text := by
  induction bounds with
  | nil => cases hbound
  | cons first others ih =>
    rcases List.mem_cons.1 hbound with rfl | hbound
    · exact h.either_left
    · exact (ih hbound).either_right

/-- A bound that allows a text does not hide the next one. -/
theorem Allows.andThen_eq (h : first.Allows text) : first.andThen second = second := by
  cases first with
  | nothing => exact h.elim
  | blank | anything => rfl

/-- A text that is not empty is allowed by one bound only. -/
theorem Allows.eq_anything (h : bound.Allows text) (hne : text ≠ "") : bound = anything := by
  cases bound with
  | nothing => exact h.elim
  | blank => exact absurd h hne
  | anything => rfl

/-- A text that is made of another one without adding to an empty one. -/
theorem Allows.map {f : String → String} (hf : f "" = "") (h : bound.Allows text) :
    bound.Allows (f text) := by
  cases bound with
  | nothing => exact h
  | blank =>
    obtain rfl : text = "" := h
    exact hf
  | anything => trivial

end Bound

/-! ### Evaluations within bounds -/

namespace Evaluation

variable {α β : Type} {first second bound : Bound}

/-- Has every value that is yielded some property? -/
def Yields (P : α → Prop) (x : Evaluation α) : Prop :=
  ∀ s a, (x.runFrom s).1 = .ok a → P a

/-- Does a bound allow every text that is yielded? -/
def Within (bound : Bound) (x : Evaluation String) : Prop :=
  x.Yields bound.Allows

/-- What holds after one step may be used for the next. -/
theorem Yields.bind {P : α → Prop} {Q : β → Prop} {x : Evaluation α} {f : α → Evaluation β}
    (hx : x.Yields P) (hf : ∀ a, P a → (f a).Yields Q) : (x >>= f).Yields Q := by
  intro s b hb
  rw [runFrom_bind] at hb
  have hxs := hx s
  generalize x.runFrom s = r at hb hxs
  obtain ⟨result, t⟩ := r
  cases result with
  | ok a => exact hf a (hxs a rfl) t b hb
  | error halt => cases hb

theorem yields_true (x : Evaluation α) : x.Yields fun _ => True :=
  fun _ _ _ => trivial

theorem within_anything (x : Evaluation String) : x.Within .anything :=
  yields_true x

theorem within_pure {text : String} (h : bound.Allows text) :
    (pure text : Evaluation String).Within bound := by
  rintro s _ ⟨⟩
  exact h

/-- Of two texts that are both found the second one counts, and the first if there is none. -/
theorem Within.andThen {x : Evaluation String} {f : String → Evaluation String}
    (hx : x.Within first) (hf : ∀ text, first.Allows text → (f text).Within second) :
    (x >>= f).Within (first.andThen second) := by
  have h : (x >>= f).Within second := Yields.bind hx hf
  -- where no first text is ever found, the second part is never evaluated
  cases first with
  | nothing => exact Yields.bind hx fun _ => False.elim
  | blank | anything => exact h

theorem Within.either_left {x : Evaluation String} (h : x.Within first) :
    x.Within (first.either second) :=
  fun s text htext => (h s text htext).either_left

theorem Within.either_right {x : Evaluation String} (h : x.Within second) :
    x.Within (first.either second) :=
  fun s text htext => (h s text htext).either_right

/-- An empty text is yielded only where none is demanded. -/
theorem Within.demand {x : Evaluation String} (h : x.Within bound) (required : Bool) :
    (x >>= Evaluation.demand required).Within (bound.demanded required) := by
  refine Yields.bind h fun text htext => ?_
  unfold Evaluation.demand
  cases bound with
  | nothing => exact htext.elim
  | blank =>
    obtain rfl : text = "" := htext
    cases required with
    | false => exact within_pure rfl
    | true => exact fun _ _ => nofun
  | anything => exact within_anything _

/-- An abort that is caught leaves an empty text. -/
theorem Within.orEmpty {x : Evaluation String} (h : x.Within bound) :
    (orEmpty x).Within (bound.either .blank) := by
  intro s text htext
  rw [runFrom_orEmpty] at htext
  have hxs := h s
  generalize x.runFrom s = r at htext hxs
  obtain ⟨result, t⟩ := r
  cases result with
  | ok value =>
    cases htext
    exact (hxs text rfl).either_left
  | error halt =>
    cases halt with
    | aborted =>
      cases htext
      exact Bound.Allows.either_right rfl
    | exhausted => cases htext

/-- A text is bounded as the one that it is made of. -/
theorem Within.map {x : Evaluation String} (h : x.Within bound) {f : String → String}
    (hf : f "" = "") : (f <$> x).Within bound := by
  rw [map_eq_pure_bind]
  exact Yields.bind h fun text htext => within_pure (htext.map hf)

end Evaluation

namespace Parameters

/-- Has a parameter no value, or an empty one? -/
def Lacks (p : Parameters) (name : String) : Prop :=
  p.get? name = none ∨ p.get? name = some ""

theorem Lacks.withDocument {p : Parameters} {name : String} (h : p.Lacks name) (document : Json) :
    (p.withDocument document).Lacks name := h

/-- A name that is lacking leaves an empty text, or none. -/
theorem Lacks.within {p : Parameters} {name : String} (h : p.Lacks name) :
    (ofOption (p.get? name)).Within .blank := by
  rcases h with h | h
  · rw [h]
    exact fun _ _ => nofun
  · rw [h]
    exact within_pure rfl

end Parameters

/-- Evaluators that are within a bound wherever a name is lacking. -/
def Evaluator.BoundedBy (name : String) (bound : Bound) (e : Evaluator) : Prop :=
  ∀ p : Parameters, p.Lacks name → (e p).Within bound

/-! ### Functions -/

/-- The bound of one of two texts, of which the second one stands for an empty condition. -/
def Bound.ofBranches (condition yes no : Bound) : Bound :=
  if condition = anything then yes.either no else no

/-- The bound of one of several texts; of none it is empty. -/
def Bound.ofChoices (bounds : List Bound) : Bound :=
  if bounds = [] then blank else bounds.foldr either nothing

/-- The bound of what `switch` chooses among its keys and outputs. -/
def Bound.ofCases : List Bound → Bound
  | [] => .blank
  | [output] => output
  | key :: output :: cases => key.andThen (output.either (Bound.ofCases cases))

/-- Is the text that replaces found once, whatever is replaced? -/
def Template.replacesOnce (arguments : List Template) : Bool :=
  match Template.fixedText? (arguments.getD 3 []) with
  | none => false
  | some mode =>
    match ReplaceMode.ofName (Text.trim mode) with
    | .fixed _ => true
    | .evaluated | .byCommand => false

/-- The bound of a call from those of its arguments. -/
def Builtin.bound (arguments : List Template) (bounds : List Bound) (required : Bool)
    (builtin : Builtin) : Bound :=
  let argument (place : Nat) := bounds.getD place .blank
  let first := (argument 0).demanded required
  match builtin with
  | .ifGiven =>
    (Bound.ofBranches (argument 0) (argument 1) (argument 2)).demanded required
  | .ifEqual =>
    (argument 0).andThen
      ((argument 1).andThen (((argument 2).either (argument 3)).demanded required))
  | .switch => first.andThen (Bound.ofCases (bounds.drop 1))
  | .join | .lower | .upper | .trim | .urlEncode | .calc => first
  | .isMatch => first.andThen .anything
  | .choose => (Bound.ofChoices bounds).demanded required
  | .randomNumber | .quote => first.andThen ((argument 1).andThen .anything)
  | .dateTime =>
    (argument 0).andThen ((argument 1).andThen ((argument 2).andThen
      ((argument 3).andThen .anything)))
  | .sort => first.andThen ((argument 1).andThen ((argument 2).andThen first))
  | .replace =>
    first.andThen ((argument 1).andThen ((argument 3).andThen
      (if Template.replacesOnce arguments then (argument 2).andThen .anything else .anything)))
  | .round =>
    first.andThen ((argument 1).andThen ((argument 2).andThen ((argument 3).andThen first)))
  | .setting => (argument 0).andThen ((argument 1).andThen .anything)
  | .json => if first = .anything then argument 1 else .nothing
  | .lookup _ => .anything
  | .request => first.andThen ((bounds.drop 1).foldr .andThen .anything)
  | .input => (argument 0).andThen ((argument 1).andThen ((argument 2).andThen .anything))

section Functions

variable {name : String} {p : Parameters} {bounds : List Bound} {evaluators : List Evaluator}

/-- The argument at a place has the bound at that place. -/
theorem boundedBy_argumentAt (h : List.Forall₂ (Evaluator.BoundedBy name) bounds evaluators)
    (place : Nat) :
    Evaluator.BoundedBy name (bounds.getD place .blank) (argumentAt evaluators place) := by
  induction h generalizing place with
  | nil => exact fun _ _ => within_pure rfl
  | cons hfirst _ ih =>
    cases place with
    | zero => exact hfirst
    | succ place => exact ih place

/-- A choice among cases is bounded if the keys and outputs are. -/
theorem within_switchOn (hp : p.Lacks name) (value : String) : ∀ {bounds : List Bound}
    {cases : List Evaluator}, List.Forall₂ (Evaluator.BoundedBy name) bounds cases →
      (switchOn value p cases).Within (.ofCases bounds)
  | [], _, .nil => within_pure rfl
  | [_], _, .cons houtput .nil => houtput p hp
  | _ :: _ :: _, _, .cons hkey (.cons houtput hcases) =>
    (hkey p hp).andThen fun text _ => by
      split
      · exact (houtput p hp).either_left
      · exact (within_switchOn hp value hcases).either_right

/-- Texts that are all found are found only if each of them is. -/
theorem within_textsOf (h : List.Forall₂ (Evaluator.BoundedBy name) bounds evaluators)
    (hp : p.Lacks name) (f : List String → Evaluation String) :
    (textsOf p evaluators >>= f).Within (bounds.foldr .andThen .anything) := by
  induction h generalizing f with
  | nil => exact within_anything _
  | cons hfirst _ ih =>
    rw [textsOf, bind_assoc]
    refine (hfirst p hp).andThen fun text _ => ?_
    rw [bind_assoc]
    exact ih fun texts => pure (text :: texts) >>= f

/-- One of several arguments is bounded as they are together. -/
theorem within_choice (h : List.Forall₂ (Evaluator.BoundedBy name) bounds evaluators)
    (hp : p.Lacks name) {place : Nat} (hplace : place < evaluators.length) :
    (argumentAt evaluators place p).Within (.ofChoices bounds) := by
  have hlt : place < bounds.length := h.length_eq ▸ hplace
  have hne : bounds ≠ [] := List.ne_nil_of_length_pos (Nat.zero_lt_of_lt hlt)
  intro s text htext
  have hallows := boundedBy_argumentAt h place p hp s text htext
  rw [List.getD_eq_getElem _ _ hlt] at hallows
  -- any of the arguments may be drawn
  rw [Bound.ofChoices, if_neg hne]
  exact Bound.allows_either_of_mem (List.getElem_mem hlt) hallows

/-- Of two branches the one is taken that the condition leaves. -/
theorem within_branch {condition yes no : Bound} {x y : Evaluation String} {value : String}
    (hvalue : (condition.either .blank).Allows value) (hyes : x.Within yes) (hno : y.Within no) :
    (if value.isEmpty then y else x).Within (.ofBranches condition yes no) := by
  cases condition with
  | nothing | blank =>
    obtain rfl : value = "" := hvalue
    exact hno
  | anything =>
    show Within (yes.either no) _
    split
    · exact hno.either_right
    · exact hyes.either_left

/-- A second argument that is not there does not matter. -/
theorem within_second {x : Evaluation String} (hlength : bounds.length ≤ 1) :
    x.Within ((bounds.getD 1 .blank).andThen .anything) := by
  rw [List.getD_eq_default _ _ hlength]
  exact within_anything x

/-- There is a text in any case where another one stands in for it. -/
theorem orElse_ne_empty (text : String) {other : String} (h : other ≠ "") :
    orElse text other ≠ "" := by
  unfold orElse
  split
  · exact h
  · next htext => exact fun heq => htext (by rw [heq]; rfl)

/-- What replaces a text is found in any case if the mode is a fixed one. -/
theorem within_replacing {callCommand : Template → Evaluator} {arguments : List Template}
    (h : List.Forall₂ (Evaluator.BoundedBy name) bounds (Item.evaluators callCommand arguments))
    (hp : p.Lacks name) (text search : String) :
    (replacing callCommand (Item.evaluators callCommand arguments) text search p).Within
      ((bounds.getD 3 .blank).andThen
        (if Template.replacesOnce arguments then (bounds.getD 2 .blank).andThen .anything
          else .anything)) := by
  have hmode := boundedBy_argumentAt h 3 p hp
  have hreplacement := boundedBy_argumentAt h 2 p hp
  split
  · next honce =>
    rw [Template.replacesOnce] at honce
    cases hfixed : Template.fixedText? (arguments.getD 3 []) with
    | none =>
      rw [hfixed] at honce
      cases honce
    | some mode =>
      rw [hfixed] at honce
      -- the text of the mode is fixed, so it is the one that is named
      have hpure : argumentAt (Item.evaluators callCommand arguments) 3 p = pure mode := by
        rw [argumentAt_evaluators, Template.evaluateAll_of_fixedText? hfixed]
      rw [hpure] at hmode
      have hallows : (bounds.getD 3 .blank).Allows mode := hmode {} mode rfl
      rw [replacing, hpure, pure_bind, hallows.andThen_eq]
      dsimp only at honce
      cases hname : ReplaceMode.ofName (Text.trim mode) with
      | fixed substitution => exact hreplacement.andThen fun _ _ => within_anything _
      | evaluated | byCommand =>
        rw [hname] at honce
        cases honce
  · exact hmode.andThen fun _ _ => within_anything _

end Functions

/-- The bound of a call is sound if those of its arguments are. -/
theorem Builtin.within_evaluate {name : String} {callCommand : Template → Evaluator}
    {arguments : List Template} {bounds : List Bound}
    (hargs : List.Forall₂ (Evaluator.BoundedBy name) bounds
      (Item.evaluators callCommand arguments))
    (builtin : Builtin) (required : Bool) {p : Parameters} (hp : p.Lacks name) :
    (builtin.evaluate callCommand required (Item.evaluators callCommand arguments) p).Within
      (builtin.bound arguments bounds required) := by
  have hargument place := boundedBy_argumentAt hargs place
  have hat place := hargument place p hp
  have hfirst := (hat 0).demand required
  have hdrop := List.forall₂_drop 1 hargs
  have hany {x : Evaluation String} : x.Within .anything := within_anything x
  -- `andThen` goes along with the arguments that are found in any case; the others may be skipped,
  -- so there is nothing in them to rely on
  cases builtin with
  | ifGiven =>
    refine Yields.bind (hat 0).orEmpty fun value hvalue => ?_
    exact (within_branch hvalue (hat 1) (hat 2)).demand required
  | ifEqual =>
    refine (hat 0).andThen fun value _ => (hat 1).andThen fun other _ => Within.demand ?_ required
    split
    · exact (hat 2).either_left
    · exact (hat 3).either_right
  | switch => exact hfirst.andThen fun value _ => within_switchOn hp value hdrop
  | join =>
    refine Yields.bind hfirst fun value hvalue => ?_
    dsimp only
    split
    · exact within_pure hvalue
    · next hempty =>
      have hbound := hvalue.eq_anything fun heq => hempty (by rw [heq]; rfl)
      show Within (Bound.demanded _ _) _
      rw [hbound]
      exact hany
  | lower => exact hfirst.map rfl
  | upper => exact hfirst.map rfl
  | trim => exact hfirst.map rfl
  | urlEncode => exact hfirst.map (by decide +kernel)
  | «calc» => exact hfirst.map rfl
  | isMatch =>
    -- the rule is not empty if it is required, but whether it holds is up to the matcher
    exact hfirst.andThen fun _ _ => hany
  | choose =>
    -- without choices there is no text, and otherwise it is that of one of them
    dsimp only [Builtin.evaluate]
    split
    · next hempty =>
      obtain rfl : bounds = [] := by
        rw [← List.length_eq_zero_iff, hargs.length_eq, List.length_eq_zero_iff]
        exact List.isEmpty_iff.1 hempty
      have hblank : (pure "" : Evaluation String).Within .blank := within_pure rfl
      rw [← pure_bind "" (demand required)]
      exact hblank.demand required
    · next hempty =>
      refine Yields.bind (yields_true _) fun n _ => ?_
      have hlength : 0 < (Item.evaluators callCommand arguments).length := by
        rw [List.length_pos_iff, ← List.isEmpty_eq_false_iff, ← Bool.not_eq_true]
        exact hempty
      exact (within_choice hargs hp (Nat.mod_lt n hlength)).demand required
  | randomNumber =>
    refine hfirst.andThen fun start _ => ?_
    dsimp only
    split
    · next hlength => exact within_second (hargs.length_eq ▸ hlength)
    · exact (hat 1).andThen fun _ _ => hany
  | dateTime =>
    exact (hat 0).andThen fun _ _ => (hat 1).andThen fun _ _ => (hat 2).andThen fun _ _ =>
      (hat 3).andThen fun _ _ => hany
  | sort =>
    refine hfirst.andThen fun value hvalue => (hat 1).andThen fun separator _ =>
      (hat 2).andThen fun order _ => within_pure ?_
    have hseparator : orElse separator " " ≠ "" := orElse_ne_empty separator (by decide)
    exact hvalue.map (f := Text.sortPieces _ _) (Text.sortPieces_empty hseparator (.ofName order))
  | replace =>
    exact hfirst.andThen fun text _ => (hat 1).andThen fun search _ =>
      within_replacing hargs hp text search
  | quote => exact hfirst.andThen fun _ _ => (hat 1).andThen fun _ _ => hany
  | round =>
    refine hfirst.andThen fun value hvalue => (hat 1).andThen fun most _ =>
      (hat 2).andThen fun mode _ => (hat 3).andThen fun least _ => within_pure ?_
    exact hvalue.map (f := fun value => (Number.roundText? _ _ _ value).getD value) rfl
  | setting =>
    refine (hat 0).andThen fun name _ => ?_
    dsimp only
    split
    · next hlength => exact within_second (hargs.length_eq ▸ hlength)
    · exact (hat 1).andThen fun _ _ => hany
  | json =>
    refine Yields.bind hfirst fun text htext => ?_
    show Within (if Bound.demanded _ _ = .anything then _ else .nothing) _
    split
    · refine Yields.bind (yields_true _) fun document _ => ?_
      exact hargument 1 _ (hp.withDocument document)
    · next hbound =>
      -- an empty text writes no document
      obtain rfl : text = "" := by
        by_contra hne
        exact hbound (htext.eq_anything hne)
      have hparse : Json.parse? "" = none := by decide +kernel
      rw [hparse]
      exact fun _ _ => nofun
  | lookup path => exact hany
  | request => exact hfirst.andThen fun _ _ => within_textsOf hdrop hp _
  | input =>
    exact (hat 0).andThen fun _ _ => (hat 1).andThen fun _ _ => (hat 2).andThen fun _ _ => hany

/-! ### Templates -/

mutual

/-- What is known of the text of an item from parameters that lack a name. -/
def Item.bound (name : String) : Item → Bound
  | .literal text => if text = "" then .blank else .anything
  | .identifier other => if other = name then .blank else .anything
  | .argument _ _ => .anything
  | .replacement item required => ((item.bound name).either .blank).demanded required
  | .escaped item => item.bound name
  | .group items => Item.boundOfItems name items
  | .call builtin arguments required =>
    builtin.bound arguments (Item.boundsOfArguments name arguments) required

def Item.boundOfItems (name : String) : List Item → Bound
  | [] => .blank
  | item :: items => (item.bound name).append (Item.boundOfItems name items)

def Item.boundsOfArguments (name : String) : List (List Item) → List Bound
  | [] => []
  | first :: others => Item.boundOfItems name first :: Item.boundsOfArguments name others

end

theorem Escapes.apply_empty (escapes : Escapes) : escapes.apply "" = "" := by
  obtain ⟨chain, foreach⟩ := escapes
  cases chain <;> cases foreach <;> rfl

mutual

-- what commands yield does not matter: `replace` is bounded by its arguments alone
/-- An item is within its bound wherever a name is lacking. -/
theorem Item.boundedBy_evaluate (name : String) (callCommand : Template → Evaluator) :
    ∀ item : Item, Evaluator.BoundedBy name (item.bound name) (item.evaluate callCommand)
  | .literal text => fun p _ => by
    rw [Item.bound, Item.evaluate]
    split
    · next htext => exact within_pure htext
    · exact within_anything _
  | .identifier other => fun p hp => by
    rw [Item.bound, Item.evaluate]
    split
    · next hname => exact hname ▸ hp.within
    · exact within_anything _
  | .argument _ _ => fun p _ => within_anything _
  | .replacement item required => fun p hp =>
    ((Item.boundedBy_evaluate name callCommand item p hp).orEmpty).demand required
  | .escaped item => fun p hp =>
    (Item.boundedBy_evaluate name callCommand item p hp).map p.context.escapes.apply_empty
  | .group items => Item.boundedBy_evaluateAll name callCommand items
  | .call builtin arguments required => fun p hp =>
    Builtin.within_evaluate (Item.boundedBy_evaluators name callCommand arguments) builtin required
      hp

theorem Item.boundedBy_evaluateAll (name : String) (callCommand : Template → Evaluator) :
    ∀ items : List Item, Evaluator.BoundedBy name (Item.boundOfItems name items)
      (Item.evaluateAll callCommand items)
  | [] => fun _ _ => within_pure rfl
  | item :: items => fun p hp => by
    have hitem := Item.boundedBy_evaluate name callCommand item p hp
    have hitems := Item.boundedBy_evaluateAll name callCommand items p hp
    exact hitem.andThen fun text htext => hitems.andThen fun rest hrest =>
      within_pure (htext.append hrest)

theorem Item.boundedBy_evaluators (name : String) (callCommand : Template → Evaluator) :
    ∀ arguments : List (List Item), List.Forall₂ (Evaluator.BoundedBy name)
      (Item.boundsOfArguments name arguments) (Item.evaluators callCommand arguments)
  | [] => .nil
  | first :: others => .cons (Item.boundedBy_evaluateAll name callCommand first)
      (Item.boundedBy_evaluators name callCommand others)

end

namespace Template

/-- The required identifiers without whose values there is no text, whatever else there is. -/
def certainIdentifiers (t : Template) : List String :=
  t.requiredIdentifiers.filter fun name => Item.boundOfItems name t = .nothing

/-- A name is certain if it is required and its lack leaves no text. -/
theorem mem_certainIdentifiers {name : String} {t : Template} :
    name ∈ t.certainIdentifiers ↔
      name ∈ t.requiredIdentifiers ∧ Item.boundOfItems name t = .nothing := by
  rw [certainIdentifiers, List.mem_filter, decide_eq_true_eq]

/-- What an item at the top requires for certain, its template does. -/
theorem mem_certainIdentifiers_of_item {t : Template} {item : Item} (hitem : item ∈ t)
    {name : String} (hrequired : name ∈ item.requiredNames) (hbound : item.bound name = .nothing) :
    name ∈ t.certainIdentifiers := by
  rw [mem_certainIdentifiers, requiredIdentifiers, Text.mem_ascending]
  induction t with
  | nil => cases hitem
  | cons first items ih =>
    rw [Item.requiredNamesOfItems, List.mem_append, Item.boundOfItems, Bound.append]
    rcases List.mem_cons.1 hitem with rfl | hitem
    · exact ⟨.inl hrequired, by rw [hbound]; rfl⟩
    · obtain ⟨hnames, hnothing⟩ := ih hitem
      refine ⟨.inr hnames, ?_⟩
      rw [hnothing]
      cases first.bound name <;> rfl

/-- A required value at the top is missed wherever there is none. -/
theorem mem_certainIdentifiers_of_mention {t : Template} {name : String}
    (h : .escaped (.replacement (.identifier name) true) ∈ t) : name ∈ t.certainIdentifiers := by
  refine mem_certainIdentifiers_of_item h ?_ ?_
  · simp [Item.requiredNames, Item.names]
  · simp [Item.bound, Bound.either, Bound.demanded]

/-- A template yields nothing without a value for a certain identifier. -/
theorem evaluate_eq_none {t : Template} {name : String} (hname : name ∈ t.certainIdentifiers)
    {p : Parameters} (hp : p.get? name = none ∨ p.get? name = some "") (depth : Nat) :
    (t.evaluate depth p).run.1.toOption = none := by
  have hbound := (mem_certainIdentifiers.1 hname).2
  have hwithin : (t.evaluate depth p).Within (Item.boundOfItems name t) := by
    rw [evaluate_eq]
    exact Item.boundedBy_evaluateAll name _ t p hp
  rw [hbound] at hwithin
  cases hresult : (t.evaluate depth p).run.1 with
  | ok text => exact (hwithin {} text hresult).elim
  | error halt => rfl

/-- Both identifiers are certain, whatever the condition between them. -/
theorem evaluate_eq_none_upper :
    let t : Template := [
      .escaped (.call .upper [[.replacement (.identifier "name") false]] true),
      .literal " ",
      .escaped (.call .ifGiven [[.replacement (.identifier "other") false], [.literal "x"]] false),
      .literal " ",
      .escaped (.replacement (.identifier "opt") true)]
    let p : Parameters := { values := [("name", ""), ("opt", "o"), ("other", "1")] }
    t.certainIdentifiers = ["name", "opt"] ∧ p.get? "name" = some "" ∧
      (t.evaluate 1 p).run.1.toOption = none := by
  intro t p
  have hcertain : t.certainIdentifiers = ["name", "opt"] := by decide +kernel
  have hname : "name" ∈ t.certainIdentifiers := by
    rw [hcertain]
    exact List.mem_cons_self
  have hempty : p.get? "name" = some "" := by decide +kernel
  exact ⟨hcertain, hempty, evaluate_eq_none hname (.inr hempty) 1⟩

/-- A required identifier in a condition is not missed. -/
theorem evaluate_required_condition :
    let t : Template := [.escaped (.call .ifGiven
      [[.replacement (.identifier "x") true], [.literal "yes"], [.literal "no"]] false)]
    parse "$if($$(x),yes,no)" = .ok t ∧ "x" ∈ t.requiredIdentifiers ∧
      Parameters.get? {} "x" = none ∧ (t.evaluate 0 {}).run.1 = .ok "no" := by
  intro t
  have hcondition : ReadsItems 1 .commaOrParenthesis ⟨"$$(x),yes,no)".toList, 4⟩
      (textItems [] ++ [.replacement (.identifier "x") true]) ⟨",yes,no)".toList, 9⟩ := by
    refine .special rfl (.replacement ?_ .required rfl (.parenthesised rfl rfl)) (.text rfl ?_) <;>
      decide
  have hbranches : ReadsListed 1 [.commaOrParenthesis, .parenthesis] 1 ⟨"yes,no)".toList, 10⟩
      [[.literal "yes"], [.literal "no"]] ⟨[], 17⟩ := by
    refine .more (.text rfl ?_) ?_ (.last (.text rfl ?_) ?_) <;> decide
  have hcall : ReadsSpecial 0 ⟨"if($$(x),yes,no)".toList, 1⟩ (.call .ifGiven
      [[.replacement (.identifier "x") true], [.literal "yes"], [.literal "no"]] false)
      ⟨[], 17⟩ := by
    refine .call ?_ (.optional ?_) rfl ?_ (.plain ?_ rfl
      (.identifierFirst (.template ?_ hcondition) hbranches)) <;> decide
  have hreads : ReadsItems 0 .none (.ofString "$if($$(x),yes,no)") _ ⟨[], 17⟩ :=
    .special rfl hcall (.text rfl (by decide))
  refine ⟨parse_of_reads hreads, ?_, rfl, ?_⟩
  · decide +kernel
  · decide +kernel

end Template

end CommandTemplate
