import CommandTemplate.Proofs.Template.WellFormed
import CommandTemplate.Proofs.Text.Brackets

/-!
Writing templates.

`Template.print` writes a template so that it can be read again: every character of a text is
escaped and every identifier stands in parentheses, but for a first argument that may be bare.
For a well-formed template without look-ups there is a derivation of `ReadsItems` over what is
written.  It is found by induction on `Item.Sound`; each part is shown to end right at the separator
that follows it, whatever comes behind.
-/

namespace CommandTemplate

/-! ### What is written -/

/-- What stands between the dollar sign of a special and the special. -/
def requiredSign (required : Bool) : List Char :=
  if required then ['$'] else []

/-- Arguments with commas between them. -/
def joinArguments : List (List Char) → List Char
  | [] => []
  | [argument] => argument
  | argument :: arguments => argument ++ ',' :: joinArguments arguments

/-- The cases of a switch and its default. -/
def joinCases : List (List Char) → List Char
  | [] => []
  | [default] => default
  | [key, output] => key ++ ':' :: output
  | key :: output :: cases => key ++ ':' :: (output ++ ',' :: joinCases cases)

/-- The arguments of a shape with their separators. -/
def Shape.join : Shape → List (List Char) → List Char
  | .cases, value :: arguments => value ++ ',' :: joinCases arguments
  | _, arguments => joinArguments arguments

/-- The identifier alone of an argument that is bare. -/
def Template.bareText : Template → List Char
  | [.replacement item _] => item.identifierText
  | _ => []

mutual

def Item.print : Item → List Char
  | .literal text => escapedText text.toList
  | .identifier name => (Item.identifier name).identifierText
  | .argument index toEnd => (Item.argument index toEnd).identifierText
  | .replacement item required => '$' :: (requiredSign required ++ '(' :: (item.print ++ [')']))
  | .escaped item => item.print
  | .group items => Item.printItems items
  | .call builtin arguments required =>
    '$' :: (requiredSign required ++ (builtin.name.toList ++ '(' ::
      (builtin.shape.join (Item.printArguments builtin.shape.takesIdentifier arguments) ++ [')'])))

def Item.printItems : List Item → List Char
  | [] => []
  | item :: items => item.print ++ Item.printItems items

/-- The texts of arguments; `bare` says whether the first one may be a bare identifier. -/
def Item.printArguments : Bool → List (List Item) → List (List Char)
  | _, [] => []
  | bare, first :: others =>
    (if bare && Template.isBare first then Template.bareText first else Item.printItems first) ::
      Item.printArguments false others

end

/-- A template as it is written. -/
def Template.print (t : Template) : String :=
  String.ofList (Item.printItems t)

def Builtin.paths : Builtin → List Json.Path
  | .lookup path => [path]
  | _ => []

mutual

/-- The paths of the look-ups in an item. -/
def Item.paths : Item → List Json.Path
  | .literal _ | .identifier _ | .argument _ _ => []
  | .replacement item _ => item.paths
  | .escaped item => item.paths
  | .group items => Item.pathsOfItems items
  | .call builtin arguments _ => builtin.paths ++ Item.pathsOfArguments arguments

def Item.pathsOfItems : List Item → List Json.Path
  | [] => []
  | item :: items => item.paths ++ Item.pathsOfItems items

def Item.pathsOfArguments : List (List Item) → List Json.Path
  | [] => []
  | first :: others => Item.pathsOfItems first ++ Item.pathsOfArguments others

end

/-- The paths of the look-ups in a template. -/
def Template.paths (t : Template) : List Json.Path :=
  Item.pathsOfItems t

/-! ### Lists of items and of arguments -/

namespace Item

@[simp] theorem printItems_append (s t : List Item) :
    printItems (s ++ t) = printItems s ++ printItems t := by
  induction s with
  | nil => rfl
  | cons item items ih => simp only [List.cons_append, printItems, ih, List.append_assoc]

/-- Without a bare identifier all arguments are written as templates. -/
theorem printArguments_false (arguments : List Template) :
    printArguments false arguments = arguments.map printItems := by
  induction arguments with
  | nil => rfl
  | cons first others ih => simp [printArguments, ih]

/-- An item is nested no deeper than the items that it is one of. -/
theorem nesting_le_of_mem {n : Nat} {item : Item} {items : List Item} (hitem : item ∈ items)
    (h : nestingOfItems items ≤ n) : item.nesting ≤ n := by
  induction items with
  | nil => cases hitem
  | cons first others ih =>
    obtain ⟨hfirst, hothers⟩ := Nat.max_le.1 h
    rcases List.mem_cons.1 hitem with rfl | hitem
    · exact hfirst
    · exact ih hitem hothers

/-- An argument is nested no deeper than the arguments together. -/
theorem nestingOfItems_le_of_mem {n : Nat} {argument : Template} {arguments : List Template}
    (hargument : argument ∈ arguments) (h : nestingOfArguments false arguments ≤ n) :
    nestingOfItems argument ≤ n := by
  induction arguments with
  | nil => cases hargument
  | cons first others ih =>
    rw [nestingOfArguments] at h
    obtain ⟨hfirst, hothers⟩ := Nat.max_le.1 h
    rcases List.mem_cons.1 hargument with rfl | hargument
    · exact hfirst
    · exact ih hargument hothers

/-- All arguments count for the nesting but a first one that is bare. -/
theorem nestingOfItems_le {n : Nat} {bare : Bool} {first : Template} {others : List Template}
    (h : nestingOfArguments bare (first :: others) ≤ n) :
    ((bare && first.isBare) = false → nestingOfItems first ≤ n) ∧
      ∀ argument ∈ others, nestingOfItems argument ≤ n := by
  rw [nestingOfArguments] at h
  obtain ⟨hfirst, hothers⟩ := Nat.max_le.1 h
  refine ⟨fun hbare => ?_, fun argument hargument => nestingOfItems_le_of_mem hargument hothers⟩
  rw [hbare] at hfirst
  exact hfirst

/-- Items without look-ups are without them one by one. -/
theorem paths_of_mem {item : Item} {items : List Item} (hitem : item ∈ items)
    (h : pathsOfItems items = []) : item.paths = [] := by
  induction items with
  | nil => cases hitem
  | cons first others ih =>
    obtain ⟨hfirst, hothers⟩ := List.append_eq_nil_iff.1 h
    rcases List.mem_cons.1 hitem with rfl | hitem
    · exact hfirst
    · exact ih hitem hothers

/-- Arguments without look-ups are without them one by one. -/
theorem pathsOfItems_of_mem {argument : Template} {arguments : List Template}
    (hargument : argument ∈ arguments) (h : pathsOfArguments arguments = []) :
    pathsOfItems argument = [] := by
  induction arguments with
  | nil => cases hargument
  | cons first others ih =>
    obtain ⟨hfirst, hothers⟩ := List.append_eq_nil_iff.1 h
    rcases List.mem_cons.1 hargument with rfl | hargument
    · exact hfirst
    · exact ih hargument hothers

end Item

namespace Template

open Text (Scanner)

/-! ### Texts -/

/-- Does a template with an ending stop in front of a text? -/
def EndsAt (e : Ending) (rest : List Char) : Prop :=
  ∀ c ∈ rest.head?, e.stops c = true

theorem endsAt_cons {e : Ending} {c : Char} {rest : List Char} (h : e.stops c = true) :
    EndsAt e (c :: rest) := by
  intro d hd
  cases hd
  exact h

/-- No template ends at a backslash or at a dollar sign. -/
theorem ne_of_stops {e : Ending} {c : Char} (h : e.stops c = true) : c ≠ '\\' ∧ c ≠ '$' := by
  constructor <;> rintro rfl <;> cases e <;> cases h

/-- In front of a special or of the end of a template there is no more text. -/
theorem textRun_end {e : Ending} {rest : List Char} {p : Nat}
    (h : ∀ c ∈ rest.head?, c = '$' ∨ e.stops c = true) :
    textRun e ⟨rest, p⟩ = ([], ⟨rest, p⟩) := by
  cases rest with
  | nil => rfl
  | cons c rest =>
    have hstop : c = '$' ∨ e.stops c = true := h c rfl
    have hc : c ≠ '\\' := by
      rcases hstop with rfl | hstop
      · decide
      · exact (ne_of_stops hstop).1
    rw [textRun, readText, if_pos hstop]
    · rfl
    · exact fun heq => absurd heq hc
    · exact fun _ _ heq => absurd heq hc

/-- A text with a backslash in front of each character is read as this text. -/
theorem textRun_escapedText {e : Ending} {rest : List Char}
    (h : ∀ c ∈ rest.head?, c = '$' ∨ e.stops c = true) (text : List Char) (p : Nat) :
    textRun e ⟨escapedText text ++ rest, p⟩ = (text, ⟨rest, p + 2 * text.length⟩) := by
  induction text generalizing p with
  | nil => exact textRun_end h
  | cons c text ih =>
    -- each character takes two places in the text
    have ht := Prod.mk.inj (ih (p + 2))
    show textRun e ⟨'\\' :: c :: (escapedText text ++ rest), p⟩ = _
    unfold textRun
    dsimp only
    unfold readText
    refine Prod.ext (congrArg (c :: ·) ht.1) ?_
    refine ht.2.trans ?_
    rw [List.length_cons, Nat.mul_add, Nat.add_assoc, Nat.add_comm 2]

theorem printItems_textItems (text : List Char) :
    Item.printItems (textItems text) = escapedText text := by
  cases text with
  | nil => rfl
  | cons c text => simp [textItems, Item.printItems, Item.print]

/-- A template is a text, perhaps an empty one, in front of a special or of its end. -/
theorem exists_textItems {items : Template} (hseparated : items.Separated)
    (hsound : ∀ item ∈ items, item.Sound) :
    ∃ text others, items = textItems text ++ others ∧ ∀ item ∈ others.head?,
      item.isLiteral = false := by
  cases items with
  | nil => exact ⟨[], [], rfl, nofun⟩
  | cons first others =>
    cases hsound first List.mem_cons_self with
    | @literal text htext =>
      refine ⟨text.toList, others, ?_, fun item hitem => ?_⟩
      · cases hlist : text.toList with
        | nil => simp at hlist; exact absurd hlist htext
        | cons c s =>
          show _ = [Item.literal (String.ofList (c :: s))] ++ others
          rw [← hlist, String.ofList_toList]
          rfl
      · have := (List.isChain_cons.1 hseparated).1 item hitem
        simpa [Item.isLiteral] using this
    | replacement => exact ⟨[], _, rfl, fun item hitem => by cases hitem; rfl⟩
    | call => exact ⟨[], _, rfl, fun item hitem => by cases hitem; rfl⟩

/-! ### Templates -/

/-- A special is read where it is written. -/
def SpecialReads (d : Nat) (item : Item) : Prop :=
  ∃ body, item.print = '$' :: body ∧
    ∀ rest p, ∃ q, ReadsSpecial d ⟨body ++ rest, p⟩ item ⟨rest, q⟩

/-- A template is read where it is written in front of its ending. -/
def TemplateReads (d : Nat) (items : Template) : Prop :=
  ∀ e rest p, EndsAt e rest → ∃ q, ReadsItems d e ⟨Item.printItems items ++ rest, p⟩ items ⟨rest, q⟩

/-- A template is read where it is written if its specials are: they are separated by texts that are
read up to the next dollar sign. -/
theorem templateReads_of_special {d : Nat} {items : Template} (hseparated : items.Separated)
    (hsound : ∀ item ∈ items, item.Sound)
    (hspecial : ∀ item ∈ items, item.isLiteral = false → SpecialReads d item) :
    TemplateReads d items := by
  intro e rest p hend
  obtain ⟨text, others, rfl, hhead⟩ := exists_textItems hseparated hsound
  rw [Item.printItems_append, printItems_textItems, List.append_assoc]
  cases others with
  | nil =>
    refine ⟨p + 2 * text.length, ?_⟩
    rw [List.append_nil]
    -- no ending stops at a dollar sign
    refine .text (textRun_escapedText (fun c hc => .inr (hend c hc)) text p) fun hp => ?_
    exact (ne_of_stops (hend '$' hp)).2 rfl
  | cons item items =>
    have hmem : ∀ other ∈ items, other ∈ textItems text ++ item :: items := fun other h =>
      List.mem_append_right _ (List.mem_cons_of_mem _ h)
    obtain ⟨body, hprint, hitem⟩ := hspecial item (by simp) (hhead item rfl)
    have hrun : textRun e
        ⟨escapedText text ++ '$' :: (body ++ (Item.printItems items ++ rest)), p⟩ = (text, _) :=
      textRun_escapedText (fun c hc => .inl (by cases hc; rfl)) text p
    obtain ⟨q, hq⟩ := hitem (Item.printItems items ++ rest) (p + 2 * text.length + 1)
    obtain ⟨q', hq'⟩ := templateReads_of_special
      (List.isChain_append.1 hseparated).2.1.tail (fun other h => hsound other (hmem other h))
      (fun other h => hspecial other (hmem other h)) e rest q hend
    refine ⟨q', ?_⟩
    rw [Item.printItems, hprint, List.cons_append, List.cons_append, List.append_assoc]
    exact .special hrun hq hq'
termination_by items.length

/-! ### Arguments -/

/-- Where a template stops, it is empty. -/
theorem eq_nil_of_stops {d p : Nat} {e : Ending} {c : Char} {rest : List Char} {items : Template}
    {u : Scanner} (hc : e.stops c = true) (h : ReadsItems d e ⟨c :: rest, p⟩ items u) :
    items = [] ∧ u = ⟨c :: rest, p⟩ := by
  have hend : textRun e ⟨c :: rest, p⟩ = ([], ⟨c :: rest, p⟩) :=
    textRun_end fun d hd => .inr (Option.some.inj hd ▸ hc)
  cases h with
  | text hrun =>
    obtain ⟨rfl, rfl⟩ := Prod.mk.inj (hend.symm.trans hrun)
    exact ⟨rfl, rfl⟩
  | special hrun =>
    obtain ⟨-, heq⟩ := Prod.mk.inj (hend.symm.trans hrun)
    cases heq
    exact absurd rfl (ne_of_stops hc).2

/-- Listed arguments that start with their closing parenthesis are one empty argument. -/
theorem eq_of_readsListed_parenthesis {d p least : Nat} {e : Ending} {endings : List Ending}
    {rest : List Char} {arguments : List Template} {u : Scanner} (he : e.stops ')' = true)
    (h : ReadsListed d (e :: endings) least ⟨')' :: rest, p⟩ arguments u) : arguments = [[]] := by
  cases h with
  | last hargument => rw [(eq_nil_of_stops he hargument).1]
  | more hargument =>
    obtain ⟨-, heq⟩ := eq_nil_of_stops he hargument
    cases heq

/-- Does each ending stop at the comma or the parenthesis that may follow its argument? -/
def Closes : List Ending → Nat → Prop
  | [], _ => True
  | e :: endings, least =>
    (endings ≠ [] → e.stops ',' = true) ∧ (least ≤ 1 → e.stops ')' = true) ∧
      Closes endings (least - 1)

section

variable {d : Nat} {arguments : List Template}

/-- Listed arguments are read where they are written with commas in between. -/
theorem readsListed_join {endings : List Ending} {least : Nat} (hcloses : Closes endings least)
    (hreads : ∀ argument ∈ arguments, TemplateReads d argument) (hne : arguments ≠ [])
    (hmin : least ≤ arguments.length) (hmax : arguments.length ≤ endings.length)
    (rest : List Char) (p : Nat) :
    ∃ q, ReadsListed d endings least
      ⟨joinArguments (arguments.map Item.printItems) ++ ')' :: rest, p⟩ arguments ⟨rest, q⟩ := by
  induction arguments generalizing endings least p with
  | nil => exact absurd rfl hne
  | cons first others ih =>
    obtain ⟨hfirst, hothers⟩ := List.forall_mem_cons.1 hreads
    cases endings with
    | nil => exact absurd hmax (by simp)
    | cons e endings =>
      obtain ⟨hcomma, hparenthesis, hcloses⟩ := hcloses
      simp only [List.length_cons] at hmin hmax
      cases others with
      | nil =>
        -- nothing follows, so the rest of the least number must be this argument
        have hleast : least ≤ 1 := hmin
        obtain ⟨q, hq⟩ := hfirst e _ p (endsAt_cons (hparenthesis hleast))
        exact ⟨q + 1, .last hq hleast⟩
      | cons second others =>
        -- another argument follows, so another ending is left for it
        have hmore : endings ≠ [] := by
          rintro rfl
          simp at hmax
        obtain ⟨q, hq⟩ := hfirst e _ p (endsAt_cons (hcomma hmore))
        obtain ⟨q', hq'⟩ := ih hcloses hothers (List.cons_ne_nil _ _) (by omega) (by omega) (q + 1)
        refine ⟨q', ?_⟩
        simp only [List.map_cons, joinArguments, List.append_assoc, List.cons_append]
        exact .more hq hmore hq'

/-- Any number of arguments is read where it is written with commas in between. -/
theorem readsMany_join (hreads : ∀ argument ∈ arguments, TemplateReads d argument)
    (hne : arguments ≠ []) (rest : List Char) (p : Nat) :
    ∃ q, ReadsMany d ⟨joinArguments (arguments.map Item.printItems) ++ ')' :: rest, p⟩ arguments
      ⟨rest, q⟩ := by
  induction arguments generalizing p with
  | nil => exact absurd rfl hne
  | cons first others ih =>
    obtain ⟨hfirst, hothers⟩ := List.forall_mem_cons.1 hreads
    cases others with
    | nil =>
      obtain ⟨q, hq⟩ := hfirst .commaOrParenthesis _ p (endsAt_cons (c := ')') rfl)
      exact ⟨q + 1, .last hq⟩
    | cons second others =>
      obtain ⟨q, hq⟩ := hfirst .commaOrParenthesis _ p (endsAt_cons (c := ',') rfl)
      obtain ⟨q', hq'⟩ := ih hothers (List.cons_ne_nil _ _) (q + 1)
      refine ⟨q', ?_⟩
      simp only [List.map_cons, joinArguments, List.append_assoc, List.cons_append]
      exact .more hq hq'

/-- Cases are read where they are written if their keys are different from one another and from
those that were seen. -/
theorem readsCases_join {cases seen : List Template}
    (hreads : ∀ argument ∈ cases, TemplateReads d argument) (hnodup : (caseKeys cases).Nodup)
    (hfresh : ∀ key ∈ caseKeys cases, key ∉ seen) (hne : cases ≠ [])
    (htwo : seen = [] → 2 ≤ cases.length) (rest : List Char) (p : Nat) :
    ∃ q, ReadsCases d seen ⟨joinCases (cases.map Item.printItems) ++ ')' :: rest, p⟩ cases
      ⟨rest, q⟩ := by
  match cases with
  | [] => exact absurd rfl hne
  | [default] =>
    obtain ⟨q, hq⟩ := hreads default List.mem_cons_self .caseKey _ p (endsAt_cons (c := ')') rfl)
    exact ⟨q + 1, .default hq fun hseen => absurd (htwo hseen) (by simp)⟩
  | [key, output] =>
    obtain ⟨hkey, hreads⟩ := List.forall_mem_cons.1 hreads
    obtain ⟨houtput, -⟩ := List.forall_mem_cons.1 hreads
    obtain ⟨q, hq⟩ := hkey .caseKey _ p (endsAt_cons (c := ':') rfl)
    obtain ⟨q', hq'⟩ := houtput .commaOrParenthesis _ (q + 1) (endsAt_cons (c := ')') rfl)
    refine ⟨q' + 1, ?_⟩
    simp only [List.map_cons, List.map_nil, joinCases, List.append_assoc, List.cons_append]
    exact .last hq (.inl rfl) hq' (hfresh key List.mem_cons_self)
  | key :: output :: first :: others =>
    obtain ⟨hkey, hreads⟩ := List.forall_mem_cons.1 hreads
    obtain ⟨houtput, hreads⟩ := List.forall_mem_cons.1 hreads
    obtain ⟨hnew, hnodup⟩ := List.nodup_cons.1 hnodup
    obtain ⟨hunseen, hfresh⟩ := List.forall_mem_cons.1 hfresh
    obtain ⟨q, hq⟩ := hkey .caseKey _ p (endsAt_cons (c := ':') rfl)
    obtain ⟨q', hq'⟩ := houtput .commaOrParenthesis _ (q + 1) (endsAt_cons (c := ',') rfl)
    -- the key of this case must not come back in the cases behind it
    have hfresh' : ∀ k ∈ caseKeys (first :: others), k ∉ key :: seen := by
      intro k hk hmem
      rcases List.mem_cons.1 hmem with rfl | hmem
      · exact hnew hk
      · exact hfresh k hk hmem
    obtain ⟨q'', hq''⟩ := readsCases_join hreads hnodup hfresh' (List.cons_ne_nil _ _)
      (fun h => absurd h (List.cons_ne_nil _ _)) rest (q' + 1)
    refine ⟨q'', ?_⟩
    simp only [List.map_cons, joinCases, List.append_assoc, List.cons_append]
    exact .more hq (.inl rfl) hq' hunseen hq''
termination_by cases.length

end

/-- The text of an argument that may be a bare identifier. -/
def firstText (first : Template) : List Char :=
  if first.isBare then first.bareText else Item.printItems first

/-- An argument that may be a bare identifier is read where it is written. -/
def FirstReads (d : Nat) (first : Template) : Prop :=
  ∀ rest p, ∃ q, ReadsFirst d ⟨firstText first ++ ',' :: rest, p⟩ first ⟨',' :: rest, q⟩

/-- The characters of an identifier are all read before another one. -/
theorem run_identifierText {item : Item} (hitem : item.IsIdentifier) {c : Char}
    (hc : isIdentifierChar c = false) (rest : List Char) (p : Nat) :
    Scanner.run isIdentifierChar ⟨item.identifierText ++ c :: rest, p⟩ =
      (item.identifierText, ⟨c :: rest, p + item.identifierText.length⟩) :=
  Scanner.run_append (Item.isIdentifierChar_of_mem hitem) fun d hd => by cases hd; exact hc

/-- A bare identifier is read where it is written. -/
theorem firstReads_bare {d : Nat} {item : Item} (hitem : item.IsIdentifier) :
    FirstReads d [.replacement item false] := by
  intro rest p
  have hrun := run_identifierText hitem (c := ',') (by decide) rest p
  refine ⟨p + item.identifierText.length,
    .identifier (fun hp => ?_) hrun (identifierItem_identifierText hitem p)⟩
  change (item.identifierText ++ ',' :: rest).head? = some '$' at hp
  -- neither a comma nor a character of an identifier is a dollar sign
  cases htext : item.identifierText with
  | nil =>
    rw [htext] at hp
    cases hp
  | cons c text =>
    have hc := Item.isIdentifierChar_of_mem hitem c (htext ▸ List.mem_cons_self)
    rw [htext] at hp
    cases hp
    cases hc

/-- A special is written with a dollar sign in front. -/
theorem print_eq_cons {item : Item} (hsound : item.Sound) (hliteral : item.isLiteral = false) :
    ∃ body, item.print = '$' :: body := by
  cases hsound with
  | literal => cases hliteral
  | replacement => exact ⟨_, rfl⟩
  | call => exact ⟨_, rfl⟩

/-- An argument that starts with a special is read as a template where a bare identifier may stand.
-/
theorem firstReads_template {d : Nat} {first : Template} (hbare : first.isBare = false)
    (hstarts : first.StartsSpecial) (hsound : ∀ item ∈ first, item.Sound)
    (hreads : TemplateReads d first) : FirstReads d first := by
  intro rest p
  obtain ⟨q, hq⟩ := hreads .commaOrParenthesis (',' :: rest) p (endsAt_cons rfl)
  refine ⟨q, ?_⟩
  rw [firstText, hbare, if_neg Bool.false_ne_true]
  refine .template ?_ hq
  obtain ⟨item, hitem, hliteral⟩ := hstarts
  cases first with
  | nil => cases hitem
  | cons first others =>
    cases hitem
    obtain ⟨body, hbody⟩ := print_eq_cons (hsound _ List.mem_cons_self) hliteral
    rw [Item.printItems, hbody]
    rfl

/-- The endings of a shape let each of its arguments end, and a bare identifier has an argument
behind it. -/
def ShapeCloses : Shape → Prop
  | .listed endings least => Closes endings least
  | .identifierFirst endings least => 0 < least ∧ Closes endings least
  | .variadic | .cases => True

/-- The shapes of all functions are such that their arguments end. -/
theorem shapeCloses (builtin : Builtin) : ShapeCloses builtin.shape := by
  cases builtin <;> simp [ShapeCloses, Builtin.shape, Closes, Ending.stops]

theorem joinArguments_cons {first : List Char} {others : List (List Char)} (h : others ≠ []) :
    joinArguments (first :: others) = first ++ ',' :: joinArguments others := by
  cases others with
  | nil => exact absurd rfl h
  | cons => rfl

section

variable {d least : Nat} {endings : List Ending} {first : Template} {arguments : List Template}

/-- Listed arguments are read where they are written if there are not too few or too many of them.
-/
theorem readsShape_listed (hcloses : Closes endings least)
    (hfits : (Shape.listed endings least).Fits arguments)
    (hreads : ∀ argument ∈ arguments, TemplateReads d argument) (rest : List Char) (p : Nat) :
    ∃ q, ReadsShape d (.listed endings least)
      ⟨joinArguments (arguments.map Item.printItems) ++ ')' :: rest, p⟩ arguments ⟨rest, q⟩ := by
  obtain ⟨hmin, hmax, hempty⟩ := hfits
  cases arguments with
  | nil =>
    obtain rfl : least = 0 := Nat.le_zero.1 hmin
    exact ⟨p + 1, .nothing⟩
  | cons first others =>
    obtain ⟨q, hq⟩ := readsListed_join hcloses hreads (List.cons_ne_nil _ _) hmin hmax rest p
    -- a text that starts with the parenthesis is that of one empty argument, which does not fit
    refine ⟨q, .listed (fun hzero hp => hempty hzero ?_) hq⟩
    cases endings with
    | nil => cases hq
    | cons e endings =>
      obtain ⟨rest', hs⟩ := Scanner.eq_cons_of_peek? hp
      rw [hs] at hq
      exact eq_of_readsListed_parenthesis (hcloses.2.1 (by omega)) hq

/-- A first argument and those behind it are read where they are written. -/
theorem readsShape_identifierFirst (hleast : 0 < least) (hcloses : Closes endings least)
    (hfits : (Shape.identifierFirst endings least).Fits (first :: arguments))
    (hfirst : FirstReads d first) (hreads : ∀ argument ∈ arguments, TemplateReads d argument)
    (rest : List Char) (p : Nat) :
    ∃ q, ReadsShape d (.identifierFirst endings least)
      ⟨joinArguments (firstText first :: arguments.map Item.printItems) ++ ')' :: rest, p⟩
      (first :: arguments) ⟨rest, q⟩ := by
  obtain ⟨-, hmin, hmax⟩ := hfits
  have hne : arguments ≠ [] := List.ne_nil_of_length_pos (by omega)
  rw [joinArguments_cons (by simpa using hne), List.append_assoc, List.cons_append]
  obtain ⟨q, hq⟩ :=
    hfirst (joinArguments (arguments.map Item.printItems) ++ ')' :: rest) p
  obtain ⟨q', hq'⟩ := readsListed_join hcloses hreads hne hmin hmax rest (q + 1)
  exact ⟨q', .identifierFirst hq hq'⟩

/-- The value of a switch and its cases are read where they are written. -/
theorem readsShape_cases (hfits : Shape.cases.Fits (first :: arguments))
    (hfirst : FirstReads d first) (hreads : ∀ argument ∈ arguments, TemplateReads d argument)
    (rest : List Char) (p : Nat) :
    ∃ q, ReadsShape d .cases
      ⟨firstText first ++ ',' :: joinCases (arguments.map Item.printItems) ++ ')' :: rest, p⟩
      (first :: arguments) ⟨rest, q⟩ := by
  obtain ⟨-, htwo, hnodup⟩ := hfits
  rw [List.append_assoc, List.cons_append]
  obtain ⟨q, hq⟩ := hfirst (joinCases (arguments.map Item.printItems) ++ ')' :: rest) p
  obtain ⟨q', hq'⟩ := readsCases_join hreads hnodup (fun _ _ => List.not_mem_nil)
    (List.ne_nil_of_length_pos (by omega)) (fun _ => htwo) rest (q + 1)
  exact ⟨q', .cases hq hq'⟩

/-- The arguments of whichever shape are read where they are written. -/
theorem readsShape_join {shape : Shape} (hcloses : ShapeCloses shape)
    (hfits : shape.Fits arguments)
    (hfirst : shape.takesIdentifier = true → ∀ first ∈ arguments.head?, FirstReads d first)
    (hreads : ∀ argument ∈ if shape.takesIdentifier then arguments.tail else arguments,
      TemplateReads d argument) (rest : List Char) (p : Nat) :
    ∃ q, ReadsShape d shape
      ⟨shape.join (Item.printArguments shape.takesIdentifier arguments) ++ ')' :: rest, p⟩
      arguments ⟨rest, q⟩ := by
  -- only the shapes that start with an identifier write their first argument differently
  cases shape with
  | listed endings least =>
    simp only [Shape.takesIdentifier, Item.printArguments_false, Shape.join]
    exact readsShape_listed hcloses hfits hreads rest p
  | variadic =>
    simp only [Shape.takesIdentifier, Item.printArguments_false, Shape.join]
    obtain ⟨q, hq⟩ := readsMany_join hreads hfits rest p
    exact ⟨q, .variadic hq⟩
  | identifierFirst others least =>
    cases arguments with
    | nil => cases hfits
    | cons first arguments =>
      simp only [Shape.takesIdentifier, Item.printArguments, Item.printArguments_false, Shape.join]
      exact readsShape_identifierFirst hcloses.1 hcloses.2 hfits (hfirst rfl first rfl) hreads
        rest p
  | cases =>
    cases arguments with
    | nil => cases hfits
    | cons value arguments =>
      simp only [Shape.takesIdentifier, Item.printArguments, Item.printArguments_false, Shape.join]
      exact readsShape_cases hfits (hfirst rfl value rfl) hreads rest p

end

/-! ### Specials -/

/-- The sign of a required special is a second dollar sign. -/
theorem readsSign_requiredSign (required : Bool) {c : Char} (hc : c ≠ '$') (rest : List Char)
    (p : Nat) :
    ∃ q, ReadsSign ⟨requiredSign required ++ c :: rest, p⟩ required ⟨c :: rest, q⟩ := by
  cases required with
  | true => exact ⟨p + 1, .required⟩
  | false => exact ⟨p, .optional fun hp => hc (Option.some.inj hp)⟩

/-- An identifier in parentheses is read where it is written. -/
theorem specialReads_replacement {d : Nat} {item : Item} (hd : d < maxNesting)
    (hitem : item.IsIdentifier) (required : Bool) :
    SpecialReads d (.replacement item required) := by
  refine ⟨_, rfl, fun rest p => ?_⟩
  have hprint : item.print = item.identifierText := by cases hitem <;> rfl
  rw [hprint, List.append_assoc, List.cons_append, List.append_assoc, List.singleton_append]
  obtain ⟨q, hsign⟩ := readsSign_requiredSign required (c := '(') (by decide)
    (item.identifierText ++ ')' :: rest) p
  have hname : Scanner.run Char.isAlpha ⟨'(' :: (item.identifierText ++ ')' :: rest), q⟩ =
      ([], ⟨'(' :: (item.identifierText ++ ')' :: rest), q⟩) :=
    Scanner.run_append (List.forall_mem_nil _) fun c hc => by cases hc; decide
  have hrun := run_identifierText hitem (c := ')') (by decide) rest (q + 1)
  exact ⟨_, .replacement hd hsign hname
    (.parenthesised hrun (identifierItem_identifierText hitem _))⟩

/-- The names of functions are lower-case letters by which the functions are found. -/
theorem name_of_paths {builtin : Builtin} (hpaths : builtin.paths = []) :
    builtin.name.toList ≠ [] ∧ (∀ c ∈ builtin.name.toList, c.isAlpha = true) ∧
      String.ofList (builtin.name.toList.map Char.toLower) ≠ "j" ∧
      Builtin.ofName? (String.ofList (builtin.name.toList.map Char.toLower)) = some builtin := by
  cases builtin with
  | lookup => cases hpaths
  | _ => exact ⟨by decide, List.all_eq_true.1 rfl, by decide, rfl⟩

/-- A call is read where it is written if its arguments are. -/
theorem specialReads_call {d : Nat} {builtin : Builtin} {arguments : List Template}
    (hd : d < maxNesting) (hpaths : builtin.paths = [])
    (hshape : ∀ rest p, ∃ q, ReadsShape (d + 1) builtin.shape
      ⟨builtin.shape.join (Item.printArguments builtin.shape.takesIdentifier arguments) ++
        ')' :: rest, p⟩ arguments ⟨rest, q⟩) (required : Bool) :
    SpecialReads d (.call builtin arguments required) := by
  refine ⟨_, rfl, fun rest p => ?_⟩
  obtain ⟨hne, halpha, hj, hname⟩ := name_of_paths hpaths
  obtain ⟨c, name, hcons⟩ := List.exists_cons_of_ne_nil hne
  -- the name must not be taken for a second dollar sign
  have hc : c ≠ '$' := by
    rintro rfl
    exact absurd (halpha '$' (hcons ▸ List.mem_cons_self)) (by decide)
  simp only [List.append_assoc, List.cons_append, List.nil_append]
  generalize hargs : builtin.shape.join
    (Item.printArguments builtin.shape.takesIdentifier arguments) ++ ')' :: rest = text
  obtain ⟨q, hsign⟩ := readsSign_requiredSign required hc (name ++ '(' :: text) p
  rw [← List.cons_append, ← hcons] at hsign
  have hrun : Scanner.run Char.isAlpha ⟨builtin.name.toList ++ '(' :: text, q⟩ = _ :=
    Scanner.run_append halpha fun c hc => by cases hc; decide
  obtain ⟨q', hq'⟩ := hshape rest (q + builtin.name.toList.length + 1)
  rw [hargs] at hq'
  exact ⟨q', .call hd hsign hrun hne (.plain hj hname hq')⟩

/-- A first argument is read where it is written, bare or not. -/
theorem firstReads_of_templateReads {d : Nat} {first : Template} (hstarts : first.StartsSpecial)
    (hsound : ∀ item ∈ first, item.Sound) (hreads : first.isBare = false → TemplateReads d first) :
    FirstReads d first := by
  cases hbare : first.isBare with
  | false => exact firstReads_template hbare hstarts hsound (hreads hbare)
  | true =>
    unfold isBare at hbare
    split at hbare
    · next item =>
      cases hsound _ List.mem_cons_self with
      | replacement hitem => exact firstReads_bare hitem
    · cases hbare

theorem startsSpecial_of_fits {shape : Shape} {first : Template} {arguments : List Template}
    (htakes : shape.takesIdentifier = true) (h : shape.Fits (first :: arguments)) :
    first.StartsSpecial := by
  cases shape with
  | listed | variadic => cases htakes
  | identifierFirst | cases => exact h.1

/-- Only look-ups accept other arguments than their shape asks for. -/
theorem fits_of_accepts {builtin : Builtin} {arguments : List Template}
    (hpaths : builtin.paths = []) (h : builtin.Accepts arguments) :
    builtin.shape.Fits arguments := by
  cases builtin with
  | lookup => cases hpaths
  | _ => exact h

/-- The arguments of a shape are read where they are written, if those are that count nesting. -/
theorem readsShape_of_nesting {d n : Nat} {shape : Shape} {arguments : List Template}
    (hcloses : ShapeCloses shape) (hfits : shape.Fits arguments)
    (hsound : ∀ argument ∈ arguments, ∀ item ∈ argument, item.Sound)
    (hnesting : Item.nestingOfArguments shape.takesIdentifier arguments ≤ n)
    (hreads : ∀ argument ∈ arguments, Item.nestingOfItems argument ≤ n → TemplateReads d argument)
    (rest : List Char) (p : Nat) :
    ∃ q, ReadsShape d shape
      ⟨shape.join (Item.printArguments shape.takesIdentifier arguments) ++ ')' :: rest, p⟩
      arguments ⟨rest, q⟩ := by
  refine readsShape_join hcloses hfits ?_ ?_ rest p
  · -- a bare first argument counts no nesting, and is read without it
    intro htakes first hfirst
    cases arguments with
    | nil => cases hfirst
    | cons first' others =>
      cases hfirst
      refine firstReads_of_templateReads (startsSpecial_of_fits htakes hfits)
        (hsound _ List.mem_cons_self) fun hbare => hreads _ List.mem_cons_self ?_
      exact (Item.nestingOfItems_le hnesting).1 (by simp [hbare])
  · intro argument hargument
    cases arguments with
    | nil => split at hargument <;> cases hargument
    | cons first others =>
      obtain ⟨hfirst, hothers⟩ := Item.nestingOfItems_le hnesting
      split at hargument
      · exact hreads _ (List.mem_cons_of_mem _ hargument) (hothers _ hargument)
      · next htakes =>
        rcases List.mem_cons.1 hargument with rfl | hmem
        · exact hreads _ hargument (hfirst (by simp [htakes]))
        · exact hreads _ hargument (hothers _ hmem)

/-- A special of a well-formed template without look-ups is read where it is written. -/
theorem specialReads_of_sound {item : Item} (h : item.Sound) :
    ∀ d, item.isLiteral = false → item.paths = [] → item.nesting + d ≤ maxNesting →
      SpecialReads d item := by
  induction h with
  | literal => exact fun _ hliteral => nomatch hliteral
  | replacement hitem =>
    intro d _ _ hnesting
    rw [Item.nesting] at hnesting
    exact specialReads_replacement (by omega) hitem _
  | @call builtin arguments required haccepts hseparated hsound ih =>
    intro d _ hpaths hnesting
    obtain ⟨hpath, hpaths⟩ := List.append_eq_nil_iff.1 hpaths
    rw [Item.nesting] at hnesting
    -- the arguments have one level less to go than the call
    refine specialReads_call (by omega) hpath (readsShape_of_nesting (shapeCloses builtin)
      (fits_of_accepts hpath haccepts) hsound (n := maxNesting - (d + 1)) (by omega) ?_) required
    intro argument hargument hle
    refine templateReads_of_special (hseparated argument hargument) (hsound argument hargument)
      fun item hitem hliteral => ih argument hargument item hitem (d + 1) hliteral ?_ ?_
    · exact Item.paths_of_mem hitem (Item.pathsOfItems_of_mem hargument hpaths)
    · have := Item.nesting_le_of_mem hitem hle
      omega

/-! ### Print, then parse -/

/-- A well-formed template is what stands at its top, escaped. -/
theorem WellFormed.exists_inner {t : Template} (h : t.WellFormed) :
    ∃ items : Template, t = items.map Item.atTop ∧ ∀ item ∈ items, item.Sound := by
  obtain ⟨-, hsound, -⟩ := h
  induction t with
  | nil => exact ⟨[], rfl, nofun⟩
  | cons item t ih =>
    obtain ⟨hitem, hitems⟩ := List.forall_mem_cons.1 hsound
    obtain ⟨items, rfl, hinner⟩ := ih hitems
    cases hitem with
    | @literal text htext =>
      exact ⟨.literal text :: items, rfl, List.forall_mem_cons.2 ⟨.literal htext, hinner⟩⟩
    | @escaped item hitem hliteral =>
      refine ⟨item :: items, ?_, List.forall_mem_cons.2 ⟨hitem, hinner⟩⟩
      cases hitem with
      | literal => cases hliteral
      | replacement | call => rfl

/-- Escaping the items at the top is not seen in the text. -/
theorem printItems_map_atTop (items : Template) :
    Item.printItems (items.map Item.atTop) = Item.printItems items := by
  induction items with
  | nil => rfl
  | cons item items ih =>
    cases item <;> simp only [List.map_cons, Item.atTop, Item.printItems, Item.print, ih]

theorem pathsOfItems_map_atTop (items : Template) :
    Item.pathsOfItems (items.map Item.atTop) = Item.pathsOfItems items := by
  induction items with
  | nil => rfl
  | cons item items ih =>
    cases item <;> simp only [List.map_cons, Item.atTop, Item.pathsOfItems, Item.paths, ih]

/-- A well-formed template without look-ups is what its text reads as. -/
theorem WellFormed.reads_print {t : Template} (h : t.WellFormed) (hpaths : t.paths = []) :
    ∃ items u, t = items.map Item.atTop ∧ ReadsItems 0 .none (.ofString t.print) items u := by
  obtain ⟨items, rfl, hsound⟩ := h.exists_inner
  have hseparated : items.Separated := by
    have := (List.isChain_map _).1 h.separated
    simp only [Item.isLiteral_atTop] at this
    exact this
  have hnesting := h.nesting
  rw [Item.nestingOfItems_map_atTop] at hnesting
  rw [paths, pathsOfItems_map_atTop] at hpaths
  have hreads : TemplateReads 0 items := templateReads_of_special hseparated hsound
    fun item hitem hliteral => specialReads_of_sound (hsound item hitem) 0 hliteral
      (Item.paths_of_mem hitem hpaths) (Item.nesting_le_of_mem hitem hnesting)
  obtain ⟨q, hq⟩ := hreads .none [] 0 nofun
  refine ⟨items, ⟨[], q⟩, rfl, ?_⟩
  rw [Scanner.ofString, print, String.toList_ofList, printItems_map_atTop]
  rwa [List.append_nil] at hq

/-- Of the templates without look-ups, just the well-formed ones are given back when they are
written and parsed. -/
theorem parse_print_iff {t : Template} (hpaths : t.paths = []) :
    parse t.print = .ok t ↔ t.WellFormed := by
  constructor
  · intro h
    obtain ⟨items, u, hreads, rfl⟩ := reads_of_parse h
    exact .of_reads hreads
  · intro h
    obtain ⟨items, u, rfl, hreads⟩ := h.reads_print hpaths
    exact parse_of_reads hreads

/-- Written as `\a$$join($(1-),\,)`: an argument that is not bare, and a comma as a text. -/
theorem parse_print_join :
    parse (print [.literal "a", .escaped (.call .join
      [[.replacement (.argument 1 true) true], [.literal ","]] true)]) =
    .ok [.literal "a", .escaped (.call .join
      [[.replacement (.argument 1 true) true], [.literal ","]] true)] := by
  have hitem : Item.IsIdentifier (.argument 1 true) := .argument (by decide) (by decide)
  -- all of the arguments are sound, and their texts are separated
  have hcall : Item.Sound (.call .join
      [[.replacement (.argument 1 true) true], [.literal ","]] true) := by
    refine .call ⟨⟨_, rfl, rfl⟩, by decide, by decide⟩ ?_ ?_
    · simp [Separated]
    · rintro argument hargument item hmem
      simp only [List.mem_cons, List.not_mem_nil, or_false] at hargument
      rcases hargument with rfl | rfl
      · rw [List.mem_singleton.1 hmem]
        exact .replacement hitem
      · rw [List.mem_singleton.1 hmem]
        exact .literal (by decide)
  refine (parse_print_iff rfl).2 ⟨?_, ?_, by decide⟩
  · simp [Separated, Item.isLiteral]
  · rintro item hmem
    simp only [List.mem_cons, List.not_mem_nil, or_false] at hmem
    rcases hmem with rfl | rfl
    · exact .literal (by decide)
    · exact .escaped hcall rfl

end Template

end CommandTemplate
