import CommandTemplate.Proofs.Json.Faults
import CommandTemplate.Proofs.Template.Printing

/-!
How deep selections lie in one another.

Specials lie in one another as deep as the parser lets them, but it does not count the selections in
the paths of look-ups.  `Template.depth_le_of_parse` says what there is instead of a limit: beyond
the specials, a branch goes on through selections only, and each of them takes nine characters of
the text.  `Template.exists_depth_eq` shows that they go on as long as the text does.
-/

namespace CommandTemplate

open Text (Scanner)
open Text.Scanner (After LeadsTo)

/-! ### Depths -/

namespace Json

mutual

/-- How deep selections lie in one another. -/
def Step.selecting : Step → Nat
  | .key _ | .index _ | .last | .size | .unique | .join _ => 0
  | .select _ path _ => Step.selectingAll path + 1

def Step.selectingAll : List Step → Nat
  | [] => 0
  | step :: path => max step.selecting (Step.selectingAll path)

end

end Json

open Json (Path Step)

/-- How deep selections lie in one another in the path of a look-up. -/
def Builtin.selecting : Builtin → Nat
  | .lookup path => Step.selectingAll path
  | _ => 0

mutual

/-- How deep specials and selections lie in one another.  A bare first argument does not count. -/
def Item.depth : Item → Nat
  | .literal _ | .identifier _ | .argument _ _ => 0
  | .replacement _ _ => 1
  | .escaped item => item.depth
  | .group items => Item.depthOfItems items
  | .call builtin arguments _ =>
    max builtin.selecting (Item.depthOfArguments builtin.shape.takesIdentifier arguments) + 1

def Item.depthOfItems : List Item → Nat
  | [] => 0
  | item :: items => max item.depth (Item.depthOfItems items)

def Item.depthOfArguments : Bool → List (List Item) → Nat
  | _, [] => 0
  | bare, first :: others =>
    max (if bare && Template.isBare first then 0 else Item.depthOfItems first)
      (Item.depthOfArguments false others)

end

/-! ### Selections below specials -/

/-- Do selections lie at most `n` deep in one another in each of the paths? -/
def SelectsWithin (n : Nat) (paths : List Path) : Prop :=
  ∀ path ∈ paths, Step.selectingAll path ≤ n

mutual

/-- Where a branch ends in a path, the specials around that are all that came before. -/
theorem Item.depth_le {n : Nat} : ∀ item : Item, SelectsWithin n item.paths →
    item.depth ≤ item.nesting + n
  | .literal _, _ | .identifier _, _ | .argument _ _, _ => Nat.zero_le _
  | .replacement _ _, _ => Nat.le_add_right 1 n
  | .escaped item, h => Item.depth_le item h
  | .group items, h => Item.depthOfItems_le items h
  | .call builtin arguments _, h => by
    obtain ⟨hpaths, harguments⟩ := List.forall_mem_append.1 h
    -- only a look-up has a path of its own
    have hselecting : builtin.selecting ≤ n := by
      cases builtin with
      | lookup path => exact hpaths path List.mem_cons_self
      | _ => exact Nat.zero_le n
    have hdepth :=
      Item.depthOfArguments_le builtin.shape.takesIdentifier arguments harguments
    rw [Item.depth, Item.nesting]
    omega

/-- The same of items: the deepest branch of them is one of an item. -/
theorem Item.depthOfItems_le {n : Nat} : ∀ items : List Item,
    SelectsWithin n (Item.pathsOfItems items) →
    Item.depthOfItems items ≤ Item.nestingOfItems items + n
  | [], _ => Nat.zero_le _
  | item :: items, h => by
    obtain ⟨hitem, hitems⟩ := List.forall_mem_append.1 h
    have := Item.depth_le item hitem
    have := Item.depthOfItems_le items hitems
    rw [Item.depthOfItems, Item.nestingOfItems]
    omega

/-- The same of arguments, where a bare first one counts for nothing. -/
theorem Item.depthOfArguments_le {n : Nat} (bare : Bool) : ∀ arguments : List (List Item),
    SelectsWithin n (Item.pathsOfArguments arguments) →
    Item.depthOfArguments bare arguments ≤ Item.nestingOfArguments bare arguments + n
  | [], _ => Nat.zero_le _
  | first :: others, h => by
    obtain ⟨hfirst, hothers⟩ := List.forall_mem_append.1 h
    have := Item.depthOfItems_le first hfirst
    have := Item.depthOfArguments_le false others hothers
    rw [Item.depthOfArguments, Item.nestingOfArguments]
    split <;> omega

end

/-! ### The length of paths -/

namespace Json

/-- Paths that are read from fewer than `n` characters have nine of them for each selection. -/
def SelectsBelow (n : Nat) : Prop :=
  ∀ {stops : List Char} {s : Scanner} {path : Path} {t : After s}, s.rest.length < n →
    Path.read stops s = .ok (path, t) → 9 * Step.selectingAll path ≤ s.rest.length

theorem Selection.length_front (mode : Selection) : 7 ≤ mode.front.toList.length := by
  cases mode <;> decide

/-- A step that selects nothing has no selections in it. -/
theorem selecting_simpleStep (inner : List Char) : (simpleStep inner).selecting = 0 := by
  unfold simpleStep
  split
  · rfl
  · split <;> try rfl
    split <;> rfl

/-- The brackets count, too. -/
theorem Step.selecting_of_ofBracket {n p : Nat} {inner : List Char} {step : Step}
    (ih : SelectsBelow n) (hn : inner.length < n) (h : Step.ofBracket inner p = .ok step) :
    9 * step.selecting ≤ inner.length + 2 := by
  unfold Step.ofBracket at h
  split at h
  · cases h
    rw [selecting_simpleStep]
    exact Nat.zero_le _
  · next mode width text hselection =>
    obtain ⟨⟨path, t⟩, hread, h⟩ := bind_eq_ok.1 h
    obtain ⟨pattern, -, h⟩ := bind_eq_ok.1 h
    cases h
    -- a condition and a front stand around the path that the step selects from
    obtain ⟨rfl, -⟩ := eq_of_selection? hselection
    have hcondition := length_condition_le 0 text
    have hfront := mode.length_front
    rw [List.length_append] at hn ⊢
    have hpath := ih (by dsimp only; omega) hread
    dsimp only at hpath
    rw [Step.selecting]
    omega

-- a path in brackets is read from a text of its own, so the induction is on the length of texts
/-- Paths of any length have nine characters for each selection. -/
theorem selectsBelow (n : Nat) : SelectsBelow n := by
  induction n with
  | zero => exact fun hn => absurd hn (Nat.not_lt_zero _)
  | succ n ih =>
    intro stops s path t hn h
    unfold Path.read at h
    split at h
    · cases h
      exact Nat.zero_le _
    · -- an arrow
      split at h
      · cases h
        exact Nat.zero_le _
      obtain ⟨⟨path, t⟩, hread, h⟩ := bind_eq_ok.1 h
      cases h
      simp only [List.length_cons] at hn ⊢
      have := ih (by dsimp only; omega) hread
      dsimp only at this
      omega
    · -- a bracket, which is closed
      split at h
      · cases h
        exact Nat.zero_le _
      split at h
      · cases h
      · next hclosing =>
        obtain ⟨step, hstep, h⟩ := bind_eq_ok.1 h
        obtain ⟨⟨path, t⟩, hread, h⟩ := bind_eq_ok.1 h
        cases h
        obtain rfl := eq_of_closing? hclosing
        simp only [List.length_cons, List.length_append] at hn ⊢
        have := Step.selecting_of_ofBracket ih (by omega) hstep
        have := ih (by dsimp only; omega) hread
        dsimp only at this
        rw [Step.selectingAll]
        omega
    · -- a key
      next c rest p _ _ =>
      split at h
      · cases h
        exact Nat.zero_le _
      generalize readKey stops c rest (p + 1) = key at h
      obtain ⟨⟨path, t⟩, hread, h⟩ := bind_eq_ok.1 h
      cases h
      have hlength := key.2.2.length_le
      simp only [List.length_cons] at hn hlength ⊢
      have := ih (by omega) hread
      rw [Step.selectingAll, Step.selecting]
      omega

/-- A path that is read has nine characters for each selection in it. -/
theorem Path.selecting_of_read {stops : List Char} {s : Scanner} {path : Path} {t : After s}
    (h : Path.read stops s = .ok (path, t)) : 9 * Step.selectingAll path ≤ s.rest.length :=
  selectsBelow (s.rest.length + 1) (Nat.lt_succ_self _) h

end Json

/-! ### The length of templates -/

/-- The functions that are found by a name are no look-ups. -/
theorem Builtin.paths_of_ofName? {name : String} {builtin : Builtin}
    (h : ofName? name = some builtin) : builtin.paths = [] := by
  have hplain : ∀ builtin ∈ plain, builtin.paths = [] := by simp [plain, paths]
  exact hplain builtin (List.mem_of_find?_eq_some h)

namespace Template

/-- Paths for which there is room between two scanners. -/
structure Spans (paths : List Path) (s u : Scanner) : Prop where
  moved : s.LeadsTo u
  selecting : ∀ path ∈ paths, 9 * Step.selectingAll path ≤ s.rest.length

namespace Spans

variable {paths others : List Path} {s t u : Scanner}

/-- Without paths there is room wherever the scanner moves on. -/
theorem of_leadsTo (h : s.LeadsTo t) : Spans [] s t :=
  ⟨h, nofun⟩

/-- Two parts that follow one another have room for the paths of both. -/
theorem trans (h : Spans paths s t) (k : Spans others t u) : Spans (paths ++ others) s u := by
  refine ⟨h.moved.trans k.moved, List.forall_mem_append.2 ⟨h.selecting, fun path hpath => ?_⟩⟩
  exact (k.selecting path hpath).trans h.moved.length_le

/-- A part that holds no path stands in front. -/
theorem behind (h : s.LeadsTo t) (k : Spans paths t u) : Spans paths s u :=
  (of_leadsTo h).trans k

theorem cons {c : Char} {rest : List Char} {p : Nat} (h : Spans paths ⟨rest, p + 1⟩ u) :
    Spans paths ⟨c :: rest, p⟩ u :=
  h.behind (.step (.refl _))

/-- A part that holds no path and a character stand behind. -/
theorem concat {c : Char} {rest : List Char} {p : Nat} (h : Spans paths s ⟨c :: rest, p⟩) :
    Spans (paths ++ []) s ⟨rest, p + 1⟩ :=
  h.trans (of_leadsTo (.step (.refl _)))

end Spans

theorem leadsTo_textRun {e : Ending} {s t : Scanner} {text : List Char}
    (h : textRun e s = (text, t)) : s.LeadsTo t := by
  rw [← (Prod.mk.inj h).2]
  exact (readText e s.rest s.position).2.2

theorem leadsTo_of_run {test : Char → Bool} {s t : Scanner} {text : List Char}
    (h : s.run test = (text, t)) : s.LeadsTo t := by
  rw [← (Prod.mk.inj h).2]
  exact s.leadsTo_run test

theorem leadsTo_of_readsSign {s t : Scanner} {required : Bool} (h : ReadsSign s required t) :
    s.LeadsTo t := by
  cases h with
  | required => exact .step (.refl _)
  | optional => exact .refl _

theorem leadsTo_of_readsIdentifier {start : Nat} {name : List Char} {s u : Scanner} {item : Item}
    (h : ReadsIdentifier start name s item u) : s.LeadsTo u := by
  cases h with
  | parenthesised hrun => exact .step ((leadsTo_of_run hrun).trans (.step (.refl _)))
  | bare _ hrun => exact leadsTo_of_run hrun

theorem paths_of_isIdentifier {item : Item} (h : item.IsIdentifier) : item.paths = [] := by
  cases h <;> rfl

theorem pathsOfItems_textItems (text : List Char) (items : Template) :
    Item.pathsOfItems (textItems text ++ items) = Item.pathsOfItems items := by
  cases text <;> rfl

-- the parts of a rule stand one behind the other, so its span is put together from theirs
mutual

/-- All paths of a template have room where it is read. -/
theorem spans_of_readsItems {d : Nat} {e : Ending} {s u : Scanner} {items : Template} :
    ReadsItems d e s items u → Spans (Item.pathsOfItems items) s u
  | .text hrun _ => by
    rw [← List.append_nil (textItems _), pathsOfItems_textItems]
    exact .of_leadsTo (leadsTo_textRun hrun)
  | .special hrun hspecial hitems => by
    rw [pathsOfItems_textItems]
    exact ((spans_of_readsSpecial hspecial).trans (spans_of_readsItems hitems)).cons.behind
      (leadsTo_textRun hrun)

/-- All paths of a special have room where it is read. -/
theorem spans_of_readsSpecial {d : Nat} {s u : Scanner} {item : Item} :
    ReadsSpecial d s item u → Spans item.paths s u
  | .call _ hsign hrun _ hcall =>
    (spans_of_readsCall hcall).behind ((leadsTo_of_readsSign hsign).trans (leadsTo_of_run hrun))
  | .replacement _ hsign hrun hidentifier => by
    rw [Item.paths, paths_of_isIdentifier (isIdentifier_of_readsIdentifier hrun hidentifier)]
    exact .of_leadsTo ((leadsTo_of_readsSign hsign).trans
      ((leadsTo_of_run hrun).trans (leadsTo_of_readsIdentifier hidentifier)))

/-- The path of a look-up stands in front of its default. -/
theorem spans_of_readsCall {d : Nat} {name : List Char} {s u : Scanner} {builtin : Builtin}
    {arguments : List Template} : ReadsCall d name s builtin arguments u →
    Spans (builtin.paths ++ Item.pathsOfArguments arguments) s u
  | .lookup (t := t) _ hs hread hdefault => by
    have hpath : Spans [_] _ t.1 :=
      ⟨t.2, List.forall_mem_singleton.2 (Json.Path.selecting_of_read hread)⟩
    refine (hpath.trans (spans_of_readsDefault hdefault)).behind ?_
    rw [hs]
    exact .step (.refl _)
  | .plain _ hname harguments => by
    rw [Builtin.paths_of_ofName? hname]
    exact (spans_of_readsShape harguments).cons

theorem spans_of_readsDefault {d : Nat} {s u : Scanner} {arguments : List Template} :
    ReadsDefault d s arguments u → Spans (Item.pathsOfArguments arguments) s u
  | .nothing => .of_leadsTo (.step (.refl _))
  | .given hdefault => (spans_of_readsItems hdefault).concat.cons

/-- The paths of arguments have room, whatever the shape is. -/
theorem spans_of_readsShape {d : Nat} {shape : Shape} {s u : Scanner}
    {arguments : List Template} : ReadsShape d shape s arguments u →
    Spans (Item.pathsOfArguments arguments) s u
  | .nothing => .of_leadsTo (.step (.refl _))
  | .listed _ harguments => spans_of_readsListed harguments
  | .identifierFirst hfirst harguments =>
    (spans_of_readsFirst hfirst).trans (spans_of_readsListed harguments).cons
  | .variadic harguments => spans_of_readsMany harguments
  | .cases hvalue hcases => (spans_of_readsFirst hvalue).trans (spans_of_readsCases hcases).cons

theorem spans_of_readsFirst {d : Nat} {s u : Scanner} {items : Template} :
    ReadsFirst d s items u → Spans (Item.pathsOfItems items) s u
  | .template _ hitems => spans_of_readsItems hitems
  | .identifier _ hrun hitem => by
    have hidentifier := isIdentifier_of_run [] nofun hrun hitem
    rw [Item.pathsOfItems, Item.paths, paths_of_isIdentifier hidentifier]
    exact .of_leadsTo (leadsTo_of_run hrun)

/-- The paths of listed arguments have room one after the other. -/
theorem spans_of_readsListed {d least : Nat} {endings : List Ending} {s u : Scanner}
    {arguments : List Template} : ReadsListed d endings least s arguments u →
    Spans (Item.pathsOfArguments arguments) s u
  | .last hargument _ => (spans_of_readsItems hargument).concat
  | .more hargument _ harguments =>
    (spans_of_readsItems hargument).trans (spans_of_readsListed harguments).cons

theorem spans_of_readsMany {d : Nat} {s u : Scanner} {arguments : List Template} :
    ReadsMany d s arguments u → Spans (Item.pathsOfArguments arguments) s u
  | .last hargument => (spans_of_readsItems hargument).concat
  | .more hargument harguments =>
    (spans_of_readsItems hargument).trans (spans_of_readsMany harguments).cons

theorem spans_of_readsCases {d : Nat} {seen cases : List Template} {s u : Scanner} :
    ReadsCases d seen s cases u → Spans (Item.pathsOfArguments cases) s u
  | .default hdefault _ => (spans_of_readsItems hdefault).concat
  | .last hkey _ houtput _ =>
    (spans_of_readsItems hkey).trans (spans_of_readsItems houtput).concat.cons
  | .more hkey _ houtput _ hcases =>
    (spans_of_readsItems hkey).trans
      ((spans_of_readsItems houtput).trans (spans_of_readsCases hcases).cons).cons

end

/-- In the paths of a text there is a selection for each nine characters at most. -/
theorem selectsWithin_of_parse {source : String} {t : Template} (h : parse source = .ok t) :
    SelectsWithin (source.length / 9) t.paths := by
  obtain ⟨items, u, hreads, rfl⟩ := reads_of_parse h
  intro path hpath
  rw [paths, pathsOfItems_map_atTop] at hpath
  have hlength := (spans_of_readsItems hreads).selecting path hpath
  rw [Scanner.ofString, String.length_toList] at hlength
  omega

end Template

/-! ### Selections without end -/

namespace Json

/-- Filters that lie in one another. -/
def Path.filters : Nat → Path
  | 0 => []
  | n + 1 => [.select .filter (Path.filters n) none]

example : (Path.filters 2).print = "[filter:[filter:]]" := by decide +kernel

theorem Path.selecting_filters (n : Nat) : Step.selectingAll (Path.filters n) = n := by
  induction n with
  | zero => rfl
  | succ n ih => rw [Path.filters, Step.selectingAll, Step.selecting, ih, Step.selectingAll]; rfl

theorem Path.printable_filters (n : Nat) : (Path.filters n).Printable := by
  induction n with
  | zero => exact nofun
  | succ n ih => exact List.forall_mem_singleton.2 (.select ih nofun)

/-- A step in brackets is read up to the parenthesis that follows it. -/
theorem gives_read_bracketed {step : Step} {inner : List Char} (hinner : Text.Balanced inner)
    (hstep : ∀ p, Step.ofBracket inner p = .ok step) (p : Nat) :
    Gives (Path.read [',', ')'] ⟨Text.bracketed inner ++ [')'], p⟩) [step]
      ⟨[')'], p + 1 + inner.length + 1⟩ := by
  have hclosing := closing?_bracketed hinner [')']
  have hend (q : Nat) : Path.read [',', ')'] ⟨[')'], q⟩ = .ok ([], .none _) := by
    rw [Path.read, if_pos (by decide)]
    · rfl
    · simp
    · simp
  show Gives (Path.read [',', ')'] ⟨'[' :: (inner ++ [']'] ++ [')']), p⟩) _ _
  rw [List.append_assoc, Path.read, if_neg (by decide)]
  dsimp only
  split
  · next hnone => cases hclosing.symm.trans hnone
  · next hsome =>
    cases hclosing.symm.trans hsome
    exact gives_bind (hstep (p + 1)) (gives_bind (hend _) ⟨_, rfl, rfl⟩)

end Json

namespace Template

/-- Looks a path up. -/
def lookingUp (path : Path) : Template :=
  [.escaped (.call (.lookup path) [] false)]

/-- A look-up of a step in brackets is read as this step. -/
theorem parse_lookingUp {step : Step} {inner : List Char}
    (hprint : step.print = Text.bracketed inner) (hinner : Text.Balanced inner)
    (hstep : ∀ p, Step.ofBracket inner p = .ok step) :
    parse ("$j(" ++ Json.Path.print [step] ++ ")") = .ok (lookingUp [step]) := by
  have htext : ("$j(" ++ Json.Path.print [step] ++ ")").toList =
      '$' :: (['j'] ++ '(' :: (Text.bracketed inner ++ [')'])) := by
    simp [Json.Path.print, Step.printAll, hprint]
  obtain ⟨t, hread, ht⟩ := Json.gives_read_bracketed hinner hstep 3
  -- behind the brackets the call is closed at once
  have hdefault : ReadsDefault 1 t.1 [] ⟨[], 3 + 1 + inner.length + 1 + 1⟩ := by
    rw [ht]
    exact .nothing
  have hrun : Scanner.run Char.isAlpha ⟨['j'] ++ '(' :: (Text.bracketed inner ++ [')']), 1⟩ =
      (['j'], ⟨'(' :: (Text.bracketed inner ++ [')']), 2⟩) :=
    Scanner.run_append (by simp) (by simp)
  have hsign : ReadsSign ⟨['j'] ++ '(' :: (Text.bracketed inner ++ [')']), 1⟩ false _ :=
    .optional (by simp [Scanner.peek?])
  have hcall := ReadsSpecial.call (by decide) hsign hrun (List.cons_ne_nil _ _)
    (.lookup (by decide) rfl hread hdefault)
  have hstop (q : Nat) : Scanner.peek? ⟨[], q⟩ ≠ some '$' := by simp [Scanner.peek?]
  have hend (q : Nat) : ReadsItems 0 .none ⟨[], q⟩ [] ⟨[], q⟩ := .text rfl (hstop q)
  have hreads := ReadsItems.special textRun_dollar hcall (hend _)
  rw [← htext] at hreads
  exact parse_of_reads hreads

/-- A look-up of filters is read, however many there are. -/
theorem parse_filters (n : Nat) :
    parse ("$j(" ++ (Path.filters (n + 1)).print ++ ")") =
      .ok (lookingUp (Path.filters (n + 1))) := by
  have hwritten : (Step.select .filter (Path.filters n) none).Written :=
    (Path.printable_filters (n + 1) _ List.mem_cons_self).written
  cases hwritten with
  | bracketed hprint hinner hstep => exact parse_lookingUp hprint hinner hstep

/-- A look-up adds one level to those of its path. -/
theorem depth_lookingUp (path : Path) :
    Item.depthOfItems (lookingUp path) = Step.selectingAll path + 1 := by
  show max (max (Step.selectingAll path) 0 + 1) 0 = _
  omega

/-! ### The limit -/

/-- Specials lie in one another up to the limit.  Below them there may be selections, so many as
there are in a path, and for these the text is the only limit. -/
theorem depth_le_of_parse {source : String} {t : Template} (h : parse source = .ok t) :
    Item.nestingOfItems t ≤ maxNesting ∧
      (∀ n, SelectsWithin n t.paths → Item.depthOfItems t ≤ maxNesting + n) ∧
      Item.depthOfItems t ≤ maxNesting + source.length / 9 := by
  have hnesting : Item.nestingOfItems t ≤ maxNesting := by
    obtain ⟨items, u, hreads, rfl⟩ := reads_of_parse h
    exact (WellFormed.of_reads hreads).nesting
  have hdepth (n : Nat) (hn : SelectsWithin n t.paths) :
      Item.depthOfItems t ≤ maxNesting + n :=
    (Item.depthOfItems_le t hn).trans (Nat.add_le_add_right hnesting n)
  exact ⟨hnesting, hdepth, hdepth _ (selectsWithin_of_parse h)⟩

/-- Sixty-four filters below one special. -/
theorem depth_le_filters :
    parse ("$j(" ++ (Path.filters 64).print ++ ")") = .ok (lookingUp (Path.filters 64)) ∧
      SelectsWithin 64 (lookingUp (Path.filters 64)).paths ∧
      Item.depthOfItems (lookingUp (Path.filters 64)) ≤ maxNesting + 64 := by
  have hselects : SelectsWithin 64 (lookingUp (Path.filters 64)).paths :=
    List.forall_mem_singleton.2 (Nat.le_of_eq (Json.Path.selecting_filters 64))
  have hdepth := depth_le_of_parse (parse_filters 63)
  exact ⟨parse_filters 63, hselects, hdepth.2.1 64 hselects⟩

/-- They lie deeper in one another than specials may. -/
theorem maxNesting_lt_depth_filters :
    parse ("$j(" ++ (Path.filters 64).print ++ ")") = .ok (lookingUp (Path.filters 64)) ∧
      maxNesting < Item.depthOfItems (lookingUp (Path.filters 64)) := by
  refine ⟨parse_filters 63, ?_⟩
  rw [depth_lookingUp, Json.Path.selecting_filters]
  decide

/-- The depth of what is read has no limit. -/
theorem exists_depth_eq (n : Nat) :
    ∃ source t, parse source = .ok t ∧ Item.depthOfItems t = n + 2 := by
  refine ⟨_, _, parse_filters n, ?_⟩
  rw [depth_lookingUp, Json.Path.selecting_filters]

end Template

end CommandTemplate
