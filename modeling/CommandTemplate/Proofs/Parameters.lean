import CommandTemplate.Parameters
import CommandTemplate.Proofs.Number.Integer
import CommandTemplate.Proofs.Text.Casing
import CommandTemplate.Proofs.Text.Pieces
import Mathlib.Data.List.TakeWhile

/-!
Where the arguments of a command come from.

Parameters change in steps, and some steps leave the old ones as they are and change a copy.  Copies
are put onto a stack and are taken off it later, so each set of parameters on it has a history of
its own.  `source` finds in a history the last step that gave `args` a value.  It tells what this
value is and what the arguments are (`HasSource`), whatever the other steps do:
`explained_of_mem_stack`.

A value is cut at its spaces, those at its end left out.  A match is an argument as a whole.
-/

namespace CommandTemplate.Parameters

/-! ### Values -/

/-- A value hides those of the same name in any case, and no others. -/
theorem get?_put (p : Parameters) (name value other : String) :
    (p.put name value).get? other =
      if Text.lower other = Text.lower name then some value else p.get? other := by
  show List.lookup _ ((_, _) :: _) = _
  rw [List.lookup_cons]
  by_cases h : Text.lower other = Text.lower name
  · rw [if_pos h, beq_iff_eq.2 h]
  · rw [if_neg h, beq_eq_false_iff_ne.2 h]
    rfl

theorem lower_argumentsName : Text.lower argumentsName = argumentsName := by
  decide +kernel

/-- The names of groups are not that of the arguments. -/
theorem lower_groupName_ne (n : Nat) : Text.lower ("g" ++ toString n) ≠ argumentsName := by
  have htext : ("g" ++ toString n).toList = 'g' :: Nat.toDigits 10 n := by
    show ("g" ++ Nat.repr n).toList = _
    rw [Nat.repr, String.toList_append, String.toList_ofList, String.toList_ofList]
    rfl
  rw [Text.lower_eq_self]
  · intro hname
    have hlist := congrArg String.toList hname
    rw [htext] at hlist
    cases hlist
  · -- a letter and digits are in lower case already
    rw [htext, List.forall_mem_cons]
    refine ⟨by decide, fun c hc => ?_⟩
    have hdigit := Number.isDigit_of_mem_toDigits c hc
    exact ⟨by have := Text.isDigit_iff.1 hdigit; omega, Text.not_isUpper_of_isDigit hdigit⟩

/-! ### The pieces of the text of the arguments -/

/-- A text without the spaces at its end. -/
def withoutEndSpaces (text : String) : String :=
  String.ofList (Text.dropEndWhile (· == ' ') text.toList)

/-- What follows the first spaces of a text, when it has so many. -/
def afterSpaces : Nat → List Char → Option (List Char)
  | 0, s => some s
  | count + 1, s =>
    match s.dropWhile (· != ' ') with
    | [] => none
    | _ :: rest => afterSpaces count rest

section

variable {s : List Char}

/-- Each space at the end is followed by an empty piece. -/
theorem cut_append_spaces {back : List Char} (h : ∀ c ∈ back, (c == ' ') = true) :
    Text.cut [' '] (s ++ back) = Text.cut [' '] s ++ back.map fun _ => [] := by
  induction back generalizing s with
  | nil => simp
  | cons c back ih =>
    obtain ⟨hc, hback⟩ := List.forall_mem_cons.1 h
    have hcut := Text.cut_append_separator (List.cons_ne_nil ' ' []) (Text.unbordered_singleton ' ')
      s []
    rw [List.append_cons, ih hback, eq_of_beq hc, ← List.append_nil (s ++ [' ']), hcut]
    simp [Text.cut, Text.cutFrom]

/-- Behind so many spaces are the pieces that are not passed. -/
theorem afterSpaces_eq (count : Nat) (s : List Char) :
    afterSpaces count s =
      if count < (Text.cut [' '] s).length then
        some (List.intercalate [' '] ((Text.cut [' '] s).drop count))
      else none := by
  have hne : [' '] ≠ [] := List.cons_ne_nil ' ' []
  induction count generalizing s with
  | zero =>
    rw [afterSpaces, if_pos (List.length_pos_iff.2 (Text.cut_ne_nil hne s)), List.drop_zero,
      Text.intercalate_cut hne]
  | succ count ih =>
    have hpassed : ∀ t : List Char, ¬ [' '] <:+: t → ∀ c ∈ t, (c != ' ') = true := by
      rintro t ht c hc
      rw [bne_iff_ne]
      rintro rfl
      exact ht ((List.singleton_infix_iff ' ' t).2 hc)
    -- the first piece goes up to the first space, which is the one that is passed
    by_cases h : [' '] <:+: s
    · obtain ⟨front, rest, rfl, hfront⟩ := Text.exists_first hne h
      have hspace : (front ++ [' '] ++ rest).dropWhile (· != ' ') = ' ' :: rest := by
        rw [List.append_assoc, List.dropWhile_append_of_pos fun c hc =>
          hpassed _ hfront c (List.mem_append_left _ hc)]
        rfl
      rw [Text.cut_first hne hfront, afterSpaces, hspace]
      simp [ih]
    · have hspace : s.dropWhile (· != ' ') = [] := List.dropWhile_eq_nil_iff.2 (hpassed s h)
      rw [Text.cut_eq_singleton hne h, afterSpaces, hspace]
      simp

theorem splitOn_space (s : List Char) :
    Text.splitOn " " (String.ofList s) = (Text.cut [' '] s).map String.ofList := by
  show (Text.cut [' '] (String.ofList s).toList).map String.ofList = _
  rw [String.toList_ofList]

/-- The last piece of a text that does not end with a space has characters. -/
theorem not_isEmpty_of_mem_getLast? (hs : s ≠ []) (hlast : ∀ c ∈ s.getLast?, (c == ' ') = false) :
    ∀ piece ∈ (Text.splitOn " " (String.ofList s)).getLast?, piece.isEmpty = false := by
  intro piece hpiece
  rw [splitOn_space, List.getLast?_map, Option.mem_def, Option.map_eq_some_iff] at hpiece
  obtain ⟨chars, hchars, rfl⟩ := hpiece
  rw [← Bool.not_eq_true, String.isEmpty_iff, String.ofList_eq_empty_iff]
  rintro rfl
  rcases Text.suffix_of_getLast?_cut (List.cons_ne_nil ' ' []) hchars with h | ⟨front, rfl⟩
  · exact hs h
  · have hspace := hlast ' ' (by rw [List.getLast?_concat, Option.mem_some_iff])
    cases hspace

end

/-- Without the spaces at its end, a text is cut at every space.  If nothing is left, there are no
pieces. -/
theorem splitArguments_eq (text : String) :
    splitArguments text =
      if withoutEndSpaces text = "" then [] else Text.splitOn " " (withoutEndSpaces text) := by
  obtain ⟨back, htext, hback⟩ := Text.exists_dropEndWhile_append (· == ' ') text.toList
  have hempty : ∀ piece ∈ back.map fun _ => "", piece.isEmpty = true := by
    intro piece hpiece
    obtain ⟨-, -, rfl⟩ := List.mem_map.1 hpiece
    rfl
  -- the spaces at the end only give empty pieces, which are left out
  have hpieces : splitArguments text =
      Text.dropEndWhile String.isEmpty (Text.splitOn " " (withoutEndSpaces text)) := by
    have hcut : Text.splitOn " " text =
        Text.splitOn " " (withoutEndSpaces text) ++ back.map fun _ => "" := by
      conv_lhs => rw [← String.ofList_toList (s := text), htext]
      rw [withoutEndSpaces, splitOn_space, splitOn_space, cut_append_spaces hback, List.map_append,
        List.map_map]
      rfl
    rw [splitArguments, hcut, Text.dropEndWhile_append hempty]
  rw [hpieces]
  split
  case isTrue h =>
    rw [h]
    rfl
  case isFalse h =>
    refine Text.dropEndWhile_eq_self (not_isEmpty_of_mem_getLast? ?_ ?_)
    · exact fun hnil => h (String.ofList_eq_empty_iff.2 hnil)
    · exact fun c => Text.of_mem_getLast?_dropEndWhile

/-! ### Arguments by their index -/

section

variable {p : Parameters}

/-- All arguments from one on are joined again. -/
theorem argument?_toEnd (p : Parameters) (index : Nat) :
    p.argument? index true =
      if index < p.arguments.length then some (String.intercalate " " (p.arguments.drop index))
      else none := by
  rw [argument?, if_pos rfl]
  split
  case h_1 h => rw [if_neg (Nat.not_lt.2 (List.drop_eq_nil_iff.1 h))]
  case h_2 h => rw [if_pos (Nat.lt_of_not_le fun hle => h (List.drop_eq_nil_iff.2 hle))]

/-- If the arguments are the pieces of a text, those from an index on are a part of it. -/
theorem argument?_toEnd_of_splitOn {s : List Char}
    (h : p.arguments = Text.splitOn " " (String.ofList s)) (index : Nat) :
    p.argument? index true = (afterSpaces index s).map String.ofList := by
  rw [argument?_toEnd, h, splitOn_space, List.length_map, afterSpaces_eq, ← List.map_drop]
  split
  case isTrue =>
    rw [Option.map_some, Option.some_inj, ← String.toList_inj, Text.toList_intercalate_ofList]
    exact String.toList_ofList.symm
  case isFalse => rfl

end

/-! ### Histories -/

/-- A step with the parameters on top of a stack.  `derive`, `withDocument` and `forMatch` put a
copy onto the stack, and `leave` takes what is on top off it. -/
inductive Step where
  | put (name value : String)
  | putIfAbsent (name value : String)
  | withEscapes (escapes : Escapes)
  | derive
  | withDocument (document : Json)
  | forMatch (whole : String) (groups : List String)
  | leave

/-- What a step makes of parameters. -/
def Step.make : Step → Parameters → Parameters
  | .put name value, p => p.put name value
  | .putIfAbsent name value, p => p.putIfAbsent name value
  | .withEscapes escapes, p => p.withEscapes escapes
  | .withDocument document, p => p.withDocument document
  | .forMatch whole groups, p => p.forMatch whole groups
  | .derive, p | .leave, p => p

/-- Parameters with the steps that made them, the latest first. -/
structure Made where
  parameters : Parameters
  history : List Step

def Made.after (top : Made) (step : Step) : Made :=
  ⟨step.make top.parameters, step :: top.history⟩

/-- The stack after a step. -/
def Step.onStack : List Made → Step → List Made
  | [], _ => []
  | top :: below, step =>
    match step with
    | .put .. | .putIfAbsent .. | .withEscapes _ => top.after step :: below
    | .derive | .withDocument _ | .forMatch .. => top.after step :: top :: below
    | .leave => below

/-- The stack after some steps, if only parameters without values were on it. -/
def stack (context : Context) (steps : List Step) : List Made :=
  steps.foldl Step.onStack [⟨{ context }, []⟩]

/-- What the arguments come from: a value of `args`, or the text of a match. -/
inductive Source where
  | value (text : String)
  | whole (text : String)
deriving DecidableEq

def Source.text : Source → String
  | .value text | .whole text => text

def Source.arguments : Source → List String
  | .value text => splitArguments text
  | .whole text => [text]

/-- What the arguments come from after a step. -/
def Step.source (step : Step) (before : Option Source) : Option Source :=
  match step with
  | .put name value => if Text.lower name = argumentsName then some (.value value) else before
  | .putIfAbsent name value =>
    if Text.lower name = argumentsName ∧ before = none then some (.value value) else before
  | .forMatch whole _ => some (.whole whole)
  | .withEscapes _ | .derive | .withDocument _ | .leave => before

/-- What the last step of a history that gave `args` a value gave to it. -/
def source (history : List Step) : Option Source :=
  history.foldr Step.source none

/-! ### Sources -/

/-- The value of `args` and the arguments are those of the source. -/
structure HasSource (p : Parameters) (found : Option Source) : Prop where
  value : p.get? argumentsName = found.map Source.text
  arguments : p.arguments = found.elim [] Source.arguments

namespace HasSource

variable {p : Parameters} {found : Option Source}

/-- A value that is put in has its source, and may be the source of the arguments. -/
theorem put (h : HasSource p found) (name value : String) :
    HasSource (p.put name value) ((Step.put name value).source found) := by
  by_cases hname : Text.lower name = argumentsName
  · rw [Step.source, if_pos hname]
    refine ⟨?_, if_pos hname⟩
    rw [get?_put, lower_argumentsName, if_pos hname.symm]
    rfl
  · rw [Step.source, if_neg hname]
    refine ⟨?_, (if_neg hname).trans h.arguments⟩
    rw [get?_put, lower_argumentsName, if_neg (Ne.symm hname), h.value]

/-- Once `args` has a value, it keeps it. -/
theorem putIfAbsent (h : HasSource p found) (name value : String) :
    HasSource (p.putIfAbsent name value) ((Step.putIfAbsent name value).source found) := by
  have hput : HasSource (p.put name value)
      (if Text.lower name = argumentsName then some (.value value) else found) := h.put name value
  show HasSource _ (if Text.lower name = argumentsName ∧ found = none then _ else found)
  by_cases hname : Text.lower name = argumentsName
  · -- there is a value in the parameters if the steps before gave one
    have hcontains : p.contains name = found.isSome := by
      rw [contains, get?, hname, ← lower_argumentsName, ← get?, h.value, Option.isSome_map]
    rw [Parameters.putIfAbsent, hcontains]
    cases found with
    | none =>
      rw [if_pos hname] at hput
      rw [Option.isSome_none, if_neg Bool.false_ne_true, if_pos ⟨hname, rfl⟩]
      exact hput
    | some present =>
      rw [Option.isSome_some, if_pos rfl, if_neg fun hnone => Option.some_ne_none present hnone.2]
      exact h
  · rw [if_neg hname] at hput
    rw [if_neg fun hnone => hname hnone.1, Parameters.putIfAbsent]
    split
    · exact h
    · exact hput

/-- Values under other names do not change where the arguments come from. -/
theorem putAll {values : List (String × String)} (h : HasSource p found)
    (hvalues : ∀ value ∈ values, Text.lower value.1 ≠ argumentsName) :
    HasSource (p.putAll values) found := by
  induction values generalizing p with
  | nil => exact h
  | cons value values ih =>
    obtain ⟨hvalue, hvalues⟩ := List.forall_mem_cons.1 hvalues
    have hput := h.put value.1 value.2
    rw [Step.source, if_neg hvalue] at hput
    exact ih hput hvalues

/-- The texts of groups do not hide the match. -/
theorem forMatch (p : Parameters) (whole : String) (groups : List String) :
    HasSource (p.forMatch whole groups) (some (.whole whole)) := by
  -- it holds of the match alone, and the groups have other names
  refine putAll ⟨?_, rfl⟩ fun value hvalue => ?_
  · show (p.put argumentsName whole).get? argumentsName = _
    rw [get?_put, if_pos rfl]
    rfl
  · obtain ⟨⟨text, index⟩, -, rfl⟩ := List.mem_map.1 hvalue
    exact lower_groupName_ne (index + 1)

/-- Each step leaves the source that `Step.source` tells. -/
theorem make (h : HasSource p found) (step : Step) :
    HasSource (step.make p) (step.source found) := by
  cases step with
  | put name value => exact h.put name value
  | putIfAbsent name value => exact h.putIfAbsent name value
  | forMatch whole groups => exact forMatch p whole groups
  | withEscapes | derive | withDocument | leave => exact ⟨h.value, h.arguments⟩

end HasSource

/-- The match is the only argument. -/
theorem arguments_forMatch (p : Parameters) (whole : String) (groups : List String) :
    (p.forMatch whole groups).arguments = [whole] :=
  (HasSource.forMatch p whole groups).arguments

/-! ### Stacks -/

/-- Do the parameters have the source that their history tells? -/
def Made.Explained (made : Made) : Prop :=
  HasSource made.parameters (source made.history)

/-- A step only puts onto the stack what it makes of the top. -/
theorem explained_onStack {before : List Made} (h : ∀ made ∈ before, made.Explained) (step : Step) :
    ∀ made ∈ step.onStack before, made.Explained := by
  cases before with
  | nil => exact h
  | cons top below =>
    obtain ⟨htop, hbelow⟩ := List.forall_mem_cons.1 h
    have hafter : (top.after step).Explained := HasSource.make htop step
    cases step with
    | put | putIfAbsent | withEscapes => exact List.forall_mem_cons.2 ⟨hafter, hbelow⟩
    | derive | withDocument | forMatch => exact List.forall_mem_cons.2 ⟨hafter, h⟩
    | leave => exact hbelow

/-- All parameters that are made on the way are explained by their history. -/
theorem explained_of_mem_stack {context : Context} {steps : List Step} :
    ∀ made ∈ stack context steps, made.Explained := by
  refine List.foldlRecOn (motive := fun reached => ∀ made ∈ reached, made.Explained) steps
    Step.onStack (fun first hfirst => ?_) fun before hbefore step _ =>
      explained_onStack hbefore step
  rw [List.mem_singleton.1 hfirst]
  exact ⟨rfl, rfl⟩

/-- The arguments are the pieces of the last value of `args`, the last match or nothing at all; by
its index one finds an argument, or a part of the text. -/
theorem arguments_of_mem_stack {context : Context} {steps : List Step} {made : Made}
    (h : made ∈ stack context steps) :
    (source made.history = none → made.parameters.arguments = []) ∧
    (∀ whole, source made.history = some (.whole whole) →
      made.parameters.arguments = [whole]) ∧
    (∀ text left, source made.history = some (.value text) → withoutEndSpaces text = left →
      (left = "" → made.parameters.arguments = []) ∧
      (left ≠ "" →
        made.parameters.arguments = Text.splitOn " " left ∧
        String.intercalate " " made.parameters.arguments = left ∧
        (∀ piece ∈ made.parameters.arguments, ' ' ∉ piece.toList) ∧
        ∀ index, made.parameters.argument? index true =
          (afterSpaces index left.toList).map String.ofList)) ∧
    ∀ index,
      made.parameters.argument? index false = made.parameters.arguments[index]? ∧
      made.parameters.argument? index true =
        if index < made.parameters.arguments.length then
          some (String.intercalate " " (made.parameters.arguments.drop index))
        else none := by
  -- the history of the parameters says where their arguments come from
  have hfound := (explained_of_mem_stack made h).arguments
  refine ⟨fun hnone => ?_, fun whole hwhole => ?_, fun text left htext hleft => ?_,
    fun index => ⟨rfl, argument?_toEnd made.parameters index⟩⟩
  · rw [hfound, hnone, Option.elim_none]
  · rw [hfound, hwhole, Option.elim_some, Source.arguments]
  · rw [htext, Option.elim_some, Source.arguments, splitArguments_eq, hleft] at hfound
    refine ⟨fun hempty => hfound.trans (if_pos hempty), fun hne => ?_⟩
    rw [if_neg hne] at hfound
    refine ⟨hfound, ?_, fun piece hpiece hspace => ?_, fun index => ?_⟩
    · rw [hfound, Text.intercalate_splitOn (by decide)]
    · rw [hfound] at hpiece
      refine Text.not_infix_of_mem_splitOn (by decide) hpiece ?_
      exact (List.singleton_infix_iff ' ' piece.toList).2 hspace
    · refine argument?_toEnd_of_splitOn ?_ index
      rw [hfound, String.ofList_toList]

theorem arguments_of_mem_stack_leave :
    ∃ made ∈ stack {} [.put "ARGS" " a  b ", .forMatch "c d" ["c"], .leave, .putIfAbsent "Args" "e",
        .derive],
      source made.history = some (.value " a  b ") ∧
      made.parameters.arguments = ["", "a", "", "b"] ∧
      made.parameters.argument? 2 true = some " b" := by
  obtain ⟨made, hmade, hsource⟩ : ∃ made ∈ stack {} [.put "ARGS" " a  b ", .forMatch "c d" ["c"],
      .leave, .putIfAbsent "Args" "e", .derive], source made.history = some (.value " a  b ") :=
    ⟨_, List.mem_cons_self, by decide⟩
  obtain ⟨-, hpieces⟩ := (arguments_of_mem_stack hmade).2.2.1 _ " a  b" hsource (by decide)
  obtain ⟨harguments, -, -, hrest⟩ := hpieces (by decide)
  exact ⟨made, hmade, hsource, harguments.trans (by decide), (hrest 2).trans (by decide)⟩

end CommandTemplate.Parameters
