import CommandTemplate.Proofs.Evaluation.Limit
import Mathlib.Data.List.NodupEquivFin

/-!
Which nodes of a template ask, and in which order.

Prompts come from calls of `input` and fetches from calls of `request`.  `Template.asking` lists
these nodes in the order in which an evaluation comes by them.  An evaluation `Asks` some nodes if
its queries come from a part of them, in their order and from each of them once at most; this goes
along with its steps (`Asks.bind`), so that the arguments of a call may be gone through one after
the other with those that are left (`Asks.next`).  `Item.asks` is by induction on the template,
from which it follows that the queries of a whole evaluation go to places in the list.
-/

namespace CommandTemplate

open Evaluation

/-! ### Nodes that ask -/

/-- Is a node of the kind that makes a query? -/
inductive Query.AskedBy : Query → Item → Prop
  | prompt (kind message initial : String) (arguments : List Template) (required : Bool) :
    AskedBy (.prompt kind message initial) (.call .input arguments required)
  | fetch (address label : String) (arguments : List Template) (required : Bool) :
    AskedBy (.fetch address label) (.call .request arguments required)

/-- The arguments of a function in the order in which they are evaluated, where they all are.  The
mode of a replacement comes before its text. -/
def Builtin.inOrder {α : Type} : Builtin → List α → List α
  | .replace, text :: search :: replacement :: mode :: others =>
    text :: search :: mode :: replacement :: others
  | _, arguments => arguments

/-- The call itself, if it is one that asks. -/
def Builtin.own (builtin : Builtin) (arguments : List Template) (required : Bool) : List Item :=
  match builtin with
  | .input | .request => [.call builtin arguments required]
  | _ => []

mutual

/-- The nodes of an item that ask, those of the arguments of a call before the call. -/
def Item.asking : Item → List Item
  | .literal _ | .identifier _ | .argument _ _ => []
  | .replacement item _ | .escaped item => item.asking
  | .group items => Item.askingOfItems items
  | .call builtin arguments required =>
    (builtin.inOrder (Item.askingOfArguments arguments)).flatten ++ builtin.own arguments required

/-- The nodes that ask of items that follow one another. -/
def Item.askingOfItems : List Item → List Item
  | [] => []
  | item :: items => item.asking ++ Item.askingOfItems items

/-- The nodes that ask of each argument. -/
def Item.askingOfArguments : List (List Item) → List (List Item)
  | [] => []
  | first :: others => Item.askingOfItems first :: Item.askingOfArguments others

end

/-- The nodes of a template that ask. -/
def Template.asking (t : Template) : List Item :=
  Item.askingOfItems t

namespace Evaluation

variable {α β : Type} {nodes others : List Item} {x : Evaluation α} {f : α → Evaluation β}

/-- Do the queries of an evaluation come from nodes in their order, from each one at most once? -/
def Asks (nodes : List Item) (x : Evaluation α) : Prop :=
  ∀ s, ∃ made asked, (x.runFrom s).2.queries = s.queries ++ made ∧
    List.Forall₂ Query.AskedBy made asked ∧ asked.Sublist nodes

namespace Asks

/-- More nodes may be given than are asked. -/
theorem mono (h : Asks nodes x) (hsub : nodes.Sublist others) : Asks others x := fun s =>
  let ⟨made, asked, hmade, hasked, hnodes⟩ := h s
  ⟨made, asked, hmade, hasked, hnodes.trans hsub⟩

/-- An evaluation that makes no query asks no node. -/
theorem of_queries_eq (h : ∀ s, (x.runFrom s).2.queries = s.queries) : Asks nodes x := fun s =>
  ⟨[], [], by rw [h, List.append_nil], .nil, List.nil_sublist nodes⟩

theorem pure (a : α) : Asks nodes (pure a) :=
  of_queries_eq fun _ => rfl

theorem abort : Asks nodes (abort : Evaluation α) :=
  of_queries_eq fun _ => rfl

theorem draw (chance : Nat → Nat) : Asks nodes (draw chance) :=
  of_queries_eq fun _ => rfl

theorem ofOption (a : Option α) : Asks nodes (ofOption a) := by
  cases a with
  | none => exact abort
  | some a => exact pure a

theorem demand (required : Bool) (text : String) : Asks nodes (demand required text) := by
  unfold Evaluation.demand
  split
  · exact abort
  · exact pure text

/-- The question of a node is asked once. -/
theorem ask {query : Query} {node : Item} (h : query.AskedBy node) (answer : List Query → α) :
    Asks [node] (ask query answer) := fun _ =>
  ⟨[query], [node], rfl, .cons h .nil, .refl _⟩

/-- What two evaluations ask one after the other comes from the nodes of both. -/
theorem bind (hx : Asks nodes x) (hf : ∀ a, Asks others (f a)) :
    Asks (nodes ++ others) (x >>= f) := by
  intro s
  obtain ⟨made, asked, hmade, hasked, hnodes⟩ := hx s
  rw [runFrom_bind]
  cases hrun : x.runFrom s with
  | mk result t =>
    rw [hrun] at hmade
    cases result with
    | error halt => exact ⟨made, asked, hmade, hasked, hnodes.trans (List.sublist_append_left _ _)⟩
    | ok a =>
      obtain ⟨made', asked', hmade', hasked', hothers⟩ := hf a t
      refine ⟨made ++ made', asked ++ asked', ?_, List.rel_append hasked hasked',
        hnodes.append hothers⟩
      rw [hmade', hmade, List.append_assoc]

/-- What follows on some evaluation asks nothing more. -/
theorem bind_quiet (hx : Asks nodes x) (hf : ∀ a, Asks [] (f a)) : Asks nodes (x >>= f) := by
  simpa using hx.bind hf

theorem quiet_bind (hx : Asks [] x) (hf : ∀ a, Asks nodes (f a)) : Asks nodes (x >>= f) := by
  simpa using hx.bind hf

theorem map (g : α → β) (hx : Asks nodes x) : Asks nodes (g <$> x) := by
  rw [map_eq_pure_bind]
  exact hx.bind_quiet fun _ => pure _

/-- Catching an abort takes no query back. -/
theorem orEmpty {x : Evaluation String} (hx : Asks nodes x) : Asks nodes (orEmpty x) := by
  intro s
  obtain ⟨made, asked, hmade, hasked, hnodes⟩ := hx s
  refine ⟨made, asked, ?_, hasked, hnodes⟩
  rw [runFrom_orEmpty, ← hmade]
  rcases x.runFrom s with ⟨(_ | _) | _, t⟩ <;> rfl

end Asks

end Evaluation

/-! ### Arguments -/

/-- Do the queries of an evaluator come from nodes, with any parameters? -/
def Evaluator.Asks (nodes : List Item) (e : Evaluator) : Prop :=
  ∀ p, Evaluation.Asks nodes (e p)

namespace Evaluation.Asks

section

variable {α β : Type} {asking : List (List Item)} {own : List Item} {arguments : List Evaluator}
  {p : Parameters} {x : Evaluation α} {f : α → Evaluation β}

/-- The nodes of the argument at a place are followed by those of the arguments after it. -/
theorem getD_append_drop (asking : List (List Item)) (place : Nat) :
    asking.getD place [] ++ (asking.drop (place + 1)).flatten = (asking.drop place).flatten := by
  induction asking generalizing place with
  | nil => simp
  | cons first asking ih =>
    cases place with
    | zero => rfl
    | succ place => exact ih place

/-- The nodes that are left at a place are enough at an earlier one. -/
theorem later {first place : Nat} (hle : first ≤ place)
    (hx : Asks ((asking.drop place).flatten ++ own) x) :
    Asks ((asking.drop first).flatten ++ own) x := by
  obtain ⟨count, rfl⟩ := Nat.exists_eq_add_of_le hle
  refine hx.mono (List.Sublist.append_right ?_ own)
  rw [← List.drop_drop, ← List.take_append_drop count (asking.drop first), List.flatten_append,
    List.take_append_drop]
  exact List.sublist_append_right _ _

/-- One argument asks, and then those after it do. -/
theorem next (place : Nat) (hx : Asks (asking.getD place []) x)
    (hf : ∀ a, Asks ((asking.drop (place + 1)).flatten ++ own) (f a)) :
    Asks ((asking.drop place).flatten ++ own) (x >>= f) := by
  rw [← getD_append_drop, List.append_assoc]
  exact hx.bind hf

/-- At last one argument asks. -/
theorem last (place : Nat) (hx : Asks (asking.getD place []) x) :
    Asks ((asking.drop place).flatten ++ own) x := by
  rw [← getD_append_drop, List.append_assoc]
  exact hx.mono (List.sublist_append_left _ _)

/-- The argument at a place asks the nodes at that place. -/
theorem argumentAt (h : List.Forall₂ Evaluator.Asks asking arguments) (place : Nat)
    (p : Parameters) : Asks (asking.getD place []) (argumentAt arguments place p) := by
  induction h generalizing place with
  | nil => exact pure ""
  | cons hfirst _ ih =>
    cases place with
    | zero => exact hfirst p
    | succ place => exact ih place

/-- A case that is passed over leaves out nodes, but does not change their order. -/
theorem switchOn (value : String) (p : Parameters) :
    ∀ {asking : List (List Item)} {cases : List Evaluator},
      List.Forall₂ Evaluator.Asks asking cases → Asks asking.flatten (switchOn value p cases)
  | _, [], .nil => pure ""
  | _, [_], .cons houtput .nil => by simpa [CommandTemplate.switchOn] using houtput p
  | _, _ :: _ :: _, .cons hkey (.cons houtput hcases) => by
    refine (hkey p).bind fun text => ?_
    rw [List.flatten_cons]
    split
    · exact (houtput p).mono (List.sublist_append_left _ _)
    · exact (switchOn value p hcases).mono (List.sublist_append_right _ _)

/-- Arguments that are all evaluated ask one after the other. -/
theorem textsOf (h : List.Forall₂ Evaluator.Asks asking arguments) (p : Parameters) :
    Asks asking.flatten (textsOf p arguments) := by
  induction h with
  | nil => exact pure []
  | cons hfirst _ ih => exact (hfirst p).bind fun text => ih.bind_quiet fun texts => pure _

end

/-! ### Calls -/

variable {nodes : List Item} {p : Parameters}

theorem randomBetween (chance : Nat → Nat) (low high : Option Int) :
    Asks nodes (randomBetween chance low high) := by
  rcases low, high with ⟨_ | low, _ | high⟩
  · exact pure "0"
  · exact pure "0"
  · exact pure "0"
  · rw [CommandTemplate.randomBetween]
    split
    · exact (draw chance).bind_quiet fun _ => pure _
    · exact pure "0"

/-- An address is fetched at most once. -/
theorem fetched (arguments : List Template) (context : Context) (required shows trims : Bool)
    (address : String) :
    Asks [.call .request arguments required] (fetched context required shows trims address) := by
  have hfail (message : String) : Asks [] (if shows then Pure.pure ("Error: " ++ message)
      else Evaluation.demand required "") := by
    split
    · exact pure _
    · exact demand required ""
  rw [CommandTemplate.fetched]
  cases context.fetcher.filter fun _ => context.allowRequest with
  | none => exact (hfail _).mono (List.nil_sublist _)
  | some fetcher =>
    dsimp only
    split
    · refine (ask (.fetch _ fetchLabel arguments required) _).bind_quiet fun response => ?_
      split
      · exact hfail _
      · exact demand required _
      · exact hfail _
    · exact (hfail _).mono (List.nil_sublist _)

/-- The user is prompted at most once. -/
theorem prompted (arguments : List Template) (required : Bool) (context : Context)
    (kind message initial : String) :
    Asks [.call .input arguments required] (prompted context kind message initial) := by
  rw [CommandTemplate.prompted]
  cases context.prompt with
  | none => exact abort
  | some prompt =>
    exact (ask (.prompt kind message initial arguments required) _).bind_quiet ofOption

/-- A fixed replacement is evaluated once. -/
theorem replaced {replacement : Evaluator} (h : replacement.Asks nodes)
    (callCommand : Template → Evaluator) (substitution : Substitution) (text search : String) :
    Asks nodes (replaced callCommand (.fixed substitution) text search replacement p) :=
  (h p).bind_quiet fun _ => pure _

end Evaluation.Asks

/-- The first three arguments of a replacement are evaluated in this order. -/
theorem Builtin.sublist_inOrder_replace (asking : List (List Item)) :
    (asking.getD 0 [] ++ (asking.getD 1 [] ++ asking.getD 2 [])).Sublist
      (inOrder .replace asking).flatten := by
  match asking with
  | [] => simp
  | [_] => simp [inOrder]
  | [_, _] => simp [inOrder]
  | [_, _, _] => simp [inOrder]
  | _ :: _ :: _ :: _ :: _ => simp [inOrder]

/-- All other functions have their arguments in the order in which they stand. -/
theorem Builtin.inOrder_of_ne_replace {α : Type} {builtin : Builtin} (h : builtin ≠ .replace)
    (arguments : List α) : builtin.inOrder arguments = arguments := by
  cases builtin <;> first | rfl | exact absurd rfl h

section

open Evaluation.Asks (next last later)

variable {asking : List (List Item)} {arguments : List Evaluator} {p : Parameters}
  (h : List.Forall₂ Evaluator.Asks asking arguments) (callCommand : Template → Evaluator)
  (templates : List Template) (required : Bool)
include h

/-- A call that does not replace asks as its arguments do one after the other, and then itself. -/
theorem Builtin.asks_of_ne_replace {builtin : Builtin} (hne : builtin ≠ .replace) :
    Asks (asking.flatten ++ builtin.own templates required)
      (builtin.evaluate callCommand required arguments p) := by
  have hargument place := Asks.argumentAt h place p
  have hdemand text : Asks [] (demand required text) := .demand required text
  have hfirst := (hargument 0).bind_quiet hdemand
  have hdrop := List.forall₂_drop 1 h
  -- A branch that is left out asks nothing, so its nodes are passed over by `later` or `last`.
  cases builtin with
  | ifGiven =>
    refine next 0 (hargument 0).orEmpty fun value => Asks.bind_quiet ?_ hdemand
    split
    · exact later (Nat.le_succ 1) (last 2 (hargument 2))
    · exact last 1 (hargument 1)
  | ifEqual =>
    refine next 0 (hargument 0) fun value => next 1 (hargument 1) fun other =>
      Asks.bind_quiet ?_ hdemand
    split
    · exact last 2 (hargument 2)
    · exact later (Nat.le_succ 2) (last 3 (hargument 3))
  | switch =>
    exact next 0 hfirst fun value =>
      (Asks.switchOn value p hdrop).mono (List.sublist_append_left _ _)
  | join =>
    refine next 0 hfirst fun value => ?_
    dsimp only
    split
    · exact .pure value
    · exact last 1 ((hargument 1).bind_quiet fun _ => .pure _)
  | lower | upper | trim | urlEncode | «calc» => exact last 0 (hfirst.map _)
  | isMatch => exact last 0 (hfirst.bind_quiet fun rule => hdemand _)
  | choose =>
    rw [Builtin.evaluate]
    split
    · exact .demand required ""
    · exact Asks.quiet_bind (.draw _) fun n => later (Nat.zero_le _)
        (last (n % arguments.length) ((hargument _).bind_quiet hdemand))
  | randomNumber =>
    refine next 0 hfirst fun start => ?_
    dsimp only
    split
    · exact .randomBetween _ _ _
    · exact last 1 ((hargument 1).bind_quiet fun stop => .randomBetween _ _ _)
  | dateTime =>
    exact next 0 (hargument 0) fun _ => next 1 (hargument 1) fun _ =>
      next 2 (hargument 2) fun _ => next 3 (hargument 3) fun _ => .pure _
  | sort =>
    exact next 0 hfirst fun _ => next 1 (hargument 1) fun _ =>
      next 2 (hargument 2) fun _ => .pure _
  | replace => exact absurd rfl hne
  | quote => exact next 0 hfirst fun _ => next 1 (hargument 1) fun _ => .pure _
  | round =>
    exact next 0 hfirst fun _ => next 1 (hargument 1) fun _ => next 2 (hargument 2) fun _ =>
      next 3 (hargument 3) fun _ => .pure _
  | setting =>
    refine next 0 (hargument 0) fun name => ?_
    dsimp only
    split
    · exact .demand required _
    · exact last 1 ((hargument 1).bind_quiet fun key => hdemand _)
  | json =>
    exact next 0 hfirst fun text => Asks.quiet_bind (.ofOption _) fun document =>
      last 1 (Asks.argumentAt h 1 _)
  | lookup path =>
    refine Asks.bind_quiet ?_ hdemand
    split
    · exact last 0 (hargument 0)
    · exact .pure _
  | request =>
    exact next 0 hfirst fun address =>
      (Asks.textsOf hdrop p).bind fun options => .fetched templates p.context required _ _ _
  | input =>
    exact next 0 (hargument 0) fun kind => next 1 (hargument 1) fun message =>
      next 2 (hargument 2) fun initial => Asks.bind_quiet
        ((Asks.prompted templates required p.context _ _ _).mono (List.sublist_append_right _ _))
        hdemand

/-- A call that replaces in a fixed mode asks as its arguments do in the order of evaluation. -/
theorem Builtin.asks_replace {mode : String} {substitution : Substitution}
    (hmode : argumentAt arguments 3 p = pure mode)
    (hfixed : ReplaceMode.ofName (Text.trim mode) = .fixed substitution) :
    Asks (Builtin.inOrder .replace asking).flatten
      (Builtin.evaluate callCommand .replace required arguments p) := by
  have hargument place := Asks.argumentAt h place p
  have hfirst := (hargument 0).bind_quiet fun text => Asks.demand required text
  refine Asks.mono (hfirst.bind fun value => (hargument 1).bind fun search => ?_)
    (sublist_inOrder_replace asking)
  dsimp only
  rw [hmode, pure_bind, hfixed]
  exact .replaced (fun p => Asks.argumentAt h 2 p) callCommand substitution value search

end

/-! ### Templates -/

/-- Is the mode of a replacement, where it has one, a text that names a fixed one? -/
def HasFixedMode (arguments : List Template) : Prop :=
  arguments[3]? = none ∨
    ∃ text, arguments[3]? = some [.literal text] ∧ Text.trim text ∉ ["regFunc", "regCustom"]

/-- The mode is fixed unless it has one of two names. -/
theorem ReplaceMode.exists_fixed {name : String} (h : name ∉ ["regFunc", "regCustom"]) :
    ∃ substitution, ofName name = .fixed substitution := by
  unfold ofName
  split <;> simp at h ⊢

/-- A fixed mode does not depend on the parameters, nor on what is called. -/
theorem HasFixedMode.exists_mode {arguments : List Template} (h : HasFixedMode arguments)
    (callCommand : Template → Evaluator) (p : Parameters) :
    ∃ mode substitution, argumentAt (Item.evaluators callCommand arguments) 3 p = pure mode ∧
      ReplaceMode.ofName (Text.trim mode) = .fixed substitution := by
  rw [argumentAt, List.getD_eq_getElem?_getD, evaluators_eq_map, List.getElem?_map]
  rcases h with h | ⟨text, h, hname⟩
  · rw [h]
    exact ⟨"", .anyCase, rfl, by decide +kernel⟩
  · obtain ⟨substitution, hfixed⟩ := ReplaceMode.exists_fixed hname
    rw [h]
    refine ⟨text, substitution, ?_, hfixed⟩
    simp [Item.evaluateAll, Item.evaluate]

/-- Have all replacements among some nodes a fixed mode? -/
def FixesModes (nodes : List Item) : Prop :=
  ∀ arguments required, .call .replace arguments required ∈ nodes → HasFixedMode arguments

-- `nodes` stays the same in the recursion, and all nodes of what is left are among them
mutual

/-- An item asks as it is said to, whatever the parameters are. -/
theorem Item.asks {nodes : List Item} (h : FixesModes nodes) (callCommand : Template → Evaluator) :
    ∀ item : Item, (∀ node ∈ item.nodes, node ∈ nodes) →
      Evaluator.Asks item.asking (item.evaluate callCommand)
  | .literal text, _ => fun _ => .pure text
  | .identifier _, _ => fun _ => .ofOption _
  | .argument _ _, _ => fun _ => .ofOption _
  | .replacement item required, hsub => fun p =>
    have hitem := Item.asks h callCommand item (List.forall_mem_cons.1 hsub).2
    (hitem p).orEmpty.bind_quiet fun _ => .demand required _
  | .escaped item, hsub => fun p =>
    have hitem := Item.asks h callCommand item (List.forall_mem_cons.1 hsub).2
    (hitem p).map _
  | .group items, hsub => Item.asks_items h callCommand items (List.forall_mem_cons.1 hsub).2
  | .call builtin arguments required, hsub => fun p => by
    have hargs := Item.asks_arguments h callCommand arguments (List.forall_mem_cons.1 hsub).2
    by_cases hreplace : builtin = .replace
    · subst hreplace
      obtain ⟨mode, substitution, hmode, hfixed⟩ :=
        (h arguments required (hsub _ List.mem_cons_self)).exists_mode callCommand p
      exact (Builtin.asks_replace hargs callCommand required hmode hfixed).mono
        (List.sublist_append_left _ _)
    · rw [Item.asking, Builtin.inOrder_of_ne_replace hreplace]
      exact Builtin.asks_of_ne_replace hargs callCommand arguments required hreplace

theorem Item.asks_items {nodes : List Item} (h : FixesModes nodes)
    (callCommand : Template → Evaluator) :
    ∀ items : List Item, (∀ node ∈ Item.nodesOfItems items, node ∈ nodes) →
      Evaluator.Asks (Item.askingOfItems items) (Item.evaluateAll callCommand items)
  | [], _ => fun _ => .pure ""
  | item :: items, hsub => fun p => by
    obtain ⟨hitem, hitems⟩ := List.forall_mem_append.1 hsub
    exact (Item.asks h callCommand item hitem p).bind fun text =>
      (Item.asks_items h callCommand items hitems p).bind_quiet fun rest => .pure (text ++ rest)

theorem Item.asks_arguments {nodes : List Item} (h : FixesModes nodes)
    (callCommand : Template → Evaluator) :
    ∀ arguments : List (List Item), (∀ node ∈ Item.nodesOfArguments arguments, node ∈ nodes) →
      List.Forall₂ Evaluator.Asks (Item.askingOfArguments arguments)
        (Item.evaluators callCommand arguments)
  | [], _ => .nil
  | first :: others, hsub => by
    obtain ⟨hfirst, hothers⟩ := List.forall_mem_append.1 hsub
    exact .cons (Item.asks_items h callCommand first hfirst)
      (Item.asks_arguments h callCommand others hothers)

end

/-- The queries of an evaluation come from nodes that ask, in the order of the nodes and from each
of them at most once, where replacements have fixed modes. -/
theorem Template.exists_askedBy {t : Template} (h : FixesModes t.nodes) (depth : Nat)
    (p : Parameters) :
    let queries := (t.evaluate depth p).run.2.queries
    ∃ place : Fin queries.length ↪o Fin t.asking.length,
      ∀ i, (queries.get i).AskedBy (t.asking.get (place i)) := by
  intro queries
  have hasks : Evaluator.Asks t.asking (t.evaluate depth) := by
    rw [evaluate_eq]
    exact Item.asks_items h _ t fun _ hnode => hnode
  obtain ⟨made, asked, hmade, hasked, hsub⟩ := hasks p {}
  have hqueries : queries = made := hmade
  rw [← hqueries] at hasked
  obtain ⟨hlength, hasked⟩ := List.forall₂_iff_get.1 hasked
  obtain ⟨place, hplace⟩ := List.sublist_iff_exists_fin_orderEmbedding_get_eq.1 hsub
  refine ⟨(Fin.castOrderIso hlength).toOrderEmbedding.trans place, fun i => ?_⟩
  have hi := hasked i i.isLt (hlength ▸ i.isLt)
  rw [hplace] at hi
  exact hi

/-- The text of a replacement is asked for before what replaces `a` in it, and of two choices only
the one that is made asks. -/
theorem Template.exists_askedBy_replace :
    let input (kind : String) : Item := .call .input [[.literal kind]] false
    let request : Item := .call .request [[.literal "http://b.c"]] false
    let t : Template := [
      .call .replace [[input "text"], [.literal "a"], [input "new"], [.literal "cs"]] false,
      .call .choose [[request], [input "chosen"]] false]
    let context : Context :=
      { prompt := some fun made _ _ _ => some (toString made.length), chance := fun _ => 1 }
    let queries := (t.evaluate 0 { context }).run.2.queries
    queries = [.prompt "text" "" "", .prompt "new" "" "", .prompt "chosen" "" ""] ∧
      ∃ place : Fin queries.length ↪o Fin t.asking.length,
        ∀ i, (queries.get i).AskedBy (t.asking.get (place i)) := by
  intro input request t context queries
  have hmodes : FixesModes t.nodes := by
    intro arguments required hmem
    obtain ⟨rfl, -⟩ : arguments = [[input "text"], [.literal "a"], [input "new"],
        [.literal "cs"]] ∧ required = false := by
      simpa [t, request, input, nodes, Item.nodes, Item.nodesOfItems, Item.nodesOfArguments]
        using hmem
    exact .inr ⟨"cs", rfl, by decide +kernel⟩
  exact ⟨by decide +kernel, exists_askedBy hmodes 0 { context }⟩

end CommandTemplate
