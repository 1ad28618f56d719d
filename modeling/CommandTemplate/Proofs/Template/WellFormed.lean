import CommandTemplate.Proofs.Template.Completeness
import CommandTemplate.Proofs.Template.Identifier
import CommandTemplate.Proofs.Template.Soundness
import Mathlib.Data.List.Chain
import Mathlib.Data.List.Nodup

/-!
Well-formed templates.

`Template.WellFormed` says what all templates that can be read have in common: how texts,
specials and arguments are put together and how deep specials lie in one another.
`WellFormed.of_parse` shows that reading gives nothing else.  It goes over the derivations of
`ReadsItems`; the invariant is `Template.SoundWithin n`, where `n` specials may still lie in one
another.
-/

namespace CommandTemplate

/-! ### Nesting -/

def Item.isLiteral : Item → Bool
  | .literal _ => true
  | _ => false

/-- Is it one value that is not required?  Such an argument may be written as a bare identifier. -/
def Template.isBare : Template → Bool
  | [.replacement _ false] => true
  | _ => false

/-- Is the first argument of a shape written as a bare identifier if it can be? -/
def Shape.takesIdentifier : Shape → Bool
  | .identifierFirst _ _ | .cases => true
  | .listed _ _ | .variadic => false

mutual

/-- How deep specials lie in one another.  A bare first argument does not count. -/
def Item.nesting : Item → Nat
  | .literal _ | .identifier _ | .argument _ _ => 0
  | .replacement _ _ => 1
  | .escaped item => item.nesting
  | .group items => Item.nestingOfItems items
  | .call builtin arguments _ =>
    Item.nestingOfArguments builtin.shape.takesIdentifier arguments + 1

def Item.nestingOfItems : List Item → Nat
  | [] => 0
  | item :: items => max item.nesting (Item.nestingOfItems items)

def Item.nestingOfArguments : Bool → List (List Item) → Nat
  | _, [] => 0
  | bare, first :: others =>
    max (if bare && Template.isBare first then 0 else Item.nestingOfItems first)
      (Item.nestingOfArguments false others)

end

/-! ### Texts, arguments and items -/

namespace Template

/-- No two literals are neighbours. -/
def Separated (t : Template) : Prop :=
  t.IsChain fun a b => ¬ (a.isLiteral = true ∧ b.isLiteral = true)

/-- The first item is there and is no literal. -/
def StartsSpecial (t : Template) : Prop :=
  ∃ item ∈ t.head?, item.isLiteral = false

/-- The keys of a switch in its arguments after the value. -/
def caseKeys : List Template → List Template
  | key :: _ :: cases => key :: caseKeys cases
  | _ => []

end Template

/-- Are the arguments such as a shape asks for?  No arguments are never one empty argument. -/
def Shape.Fits : Shape → List Template → Prop
  | .listed endings least, arguments =>
    least ≤ arguments.length ∧ arguments.length ≤ endings.length ∧
      (least = 0 → arguments ≠ [[]])
  | .identifierFirst others least, first :: arguments =>
    first.StartsSpecial ∧ least ≤ arguments.length ∧ arguments.length ≤ others.length
  | .variadic, arguments => arguments ≠ []
  | .cases, value :: arguments =>
    value.StartsSpecial ∧ 2 ≤ arguments.length ∧ (Template.caseKeys arguments).Nodup
  | _, [] => False

/-- Are the arguments such as a function asks for?  A look-up has its path apart from them, so
that an empty default is told from none. -/
def Builtin.Accepts : Builtin → List Template → Prop
  | .lookup _, arguments => arguments.length ≤ 1
  | builtin, arguments => builtin.shape.Fits arguments

/-- An item in an argument. -/
inductive Item.Sound : Item → Prop
  | literal {text : String} : text ≠ "" → Sound (.literal text)
  | replacement {item : Item} {required : Bool} :
    item.IsIdentifier → Sound (.replacement item required)
  | call {builtin : Builtin} {arguments : List Template} {required : Bool} :
    builtin.Accepts arguments → (∀ argument ∈ arguments, Template.Separated argument) →
    (∀ argument ∈ arguments, ∀ item ∈ argument, Sound item) →
    Sound (.call builtin arguments required)

/-- An item that stands in no argument: all but literals are escaped, and only these are. -/
inductive Item.SoundAtTop : Item → Prop
  | literal {text : String} : text ≠ "" → SoundAtTop (.literal text)
  | escaped {item : Item} : item.Sound → item.isLiteral = false → SoundAtTop (.escaped item)

/-- A template such as texts are read as. -/
structure Template.WellFormed (t : Template) : Prop where
  separated : t.Separated
  sound : ∀ item ∈ t, item.SoundAtTop
  nesting : Item.nestingOfItems t ≤ maxNesting

namespace Template

open Text (Scanner)
open Text.Scanner (After Past)

/-! ### Texts -/

/-- An empty text in front of something ends where it begins. -/
theorem textRun_nil {e : Ending} {s t : Scanner} (h : textRun e s = ([], t)) (ht : t.rest ≠ []) :
    t = s := by
  obtain ⟨rest, p⟩ := s
  obtain ⟨htext, rfl⟩ := Prod.mk.inj h
  dsimp only at htext ht ⊢
  unfold readText at htext ht ⊢
  split at htext
  · exact absurd rfl ht
  · exact absurd rfl ht
  · cases htext
  · split at htext
    · next hstop => rw [if_pos hstop]; rfl
    · cases htext

/-- In front of a dollar sign there is no text. -/
theorem textRun_dollar {e : Ending} {rest : List Char} {p : Nat} :
    textRun e ⟨'$' :: rest, p⟩ = ([], ⟨'$' :: rest, p⟩) := by
  unfold textRun
  unfold readText
  rfl

theorem isLiteral_of_readsSpecial {d : Nat} {s u : Scanner} {item : Item}
    (h : ReadsSpecial d s item u) : item.isLiteral = false := by
  cases h <;> rfl

/-- What is read from a dollar sign on starts with a special. -/
theorem startsSpecial_of_reads {d : Nat} {e : Ending} {s u : Scanner} {items : Template}
    (hp : s.peek? = some '$') (h : ReadsItems d e s items u) : items.StartsSpecial := by
  obtain ⟨rest, hs⟩ := Scanner.eq_cons_of_peek? hp
  rw [hs] at h
  -- nothing can be read as text in front of the dollar sign
  cases h with
  | text hrun hend =>
    rw [textRun_dollar] at hrun
    obtain ⟨-, rfl⟩ := Prod.mk.inj hrun
    exact absurd rfl hend
  | @special _ _ _ _ _ _ _ _ item _ hrun hitem =>
    rw [textRun_dollar] at hrun
    obtain ⟨rfl, -⟩ := Prod.mk.inj hrun
    exact ⟨item, rfl, isLiteral_of_readsSpecial hitem⟩

/-- Without a text, a special or an argument, there is nothing in front of a parenthesis. -/
theorem eq_of_readsItems_nil {d p : Nat} {e : Ending} {s : Scanner} {c : Char} {rest : List Char}
    {items : Template} (hitems : items = []) (h : ReadsItems d e s items ⟨c :: rest, p⟩) :
    s = ⟨c :: rest, p⟩ := by
  cases h with
  | @text _ _ _ _ text hrun =>
    cases text with
    | nil => exact (textRun_nil hrun (List.cons_ne_nil _ _)).symm
    | cons _ _ => cases hitems
  | special => simp at hitems

/-! ### Numbers of arguments -/

/-- There are enough listed arguments, and no more than endings. -/
theorem length_of_readsListed {d least : Nat} {endings : List Ending} {s u : Scanner}
    {arguments : List Template} (h : ReadsListed d endings least s arguments u) :
    least ≤ arguments.length ∧ arguments.length ≤ endings.length := by
  induction arguments generalizing endings least s with
  | nil => cases h
  | cons first others ih =>
    cases h with
    | last _ hleast =>
      simp only [List.length_cons, List.length_nil]
      omega
    | more _ _ harguments =>
      have := ih harguments
      simp only [List.length_cons]
      omega

theorem ne_nil_of_readsMany {d : Nat} {s u : Scanner} {arguments : List Template}
    (h : ReadsMany d s arguments u) : arguments ≠ [] := by
  cases h <;> exact List.cons_ne_nil _ _

/-- A listed argument that is empty and alone has its closing parenthesis behind it. -/
theorem peek?_of_readsListed {d least : Nat} {endings : List Ending} {s u : Scanner}
    {arguments : List Template} (h : ReadsListed d endings least s arguments u)
    (hempty : arguments = [[]]) : s.peek? = some ')' := by
  cases h with
  | last hargument =>
    rw [eq_of_readsItems_nil (List.cons.inj hempty).1 hargument]
    rfl
  | more _ _ harguments =>
    rw [(List.cons.inj hempty).2] at harguments
    cases harguments

/-- The keys of cases are different from one another and from those before them. -/
theorem keys_of_readsCases {d : Nat} {seen cases : List Template} {s u : Scanner}
    (h : ReadsCases d seen s cases u) :
    (caseKeys cases).Nodup ∧ (∀ key ∈ caseKeys cases, key ∉ seen) ∧
      (seen = [] → 2 ≤ cases.length) := by
  -- two arguments at a time, as the keys are listed
  induction cases using caseKeys.induct generalizing seen s with
  | case1 key output cases ih =>
    cases h with
    | last _ _ _ hkey =>
      refine ⟨List.nodup_singleton _, ?_, fun _ => Nat.le_refl 2⟩
      intro other hmem
      rw [List.mem_singleton.1 hmem]
      exact hkey
    | more _ _ _ hkey hcases =>
      -- the keys behind are new to `key :: seen`
      obtain ⟨hnodup, hfresh, -⟩ := ih hcases
      refine ⟨?_, ?_, fun _ => ?_⟩
      · exact List.nodup_cons.2 ⟨fun hmem => hfresh _ hmem List.mem_cons_self, hnodup⟩
      · intro other hmem
        rcases List.mem_cons.1 hmem with rfl | hmem
        · exact hkey
        · exact fun hseen => hfresh other hmem (List.mem_cons_of_mem _ hseen)
      · simp only [List.length_cons]
        omega
  | case2 cases hshort =>
    cases h with
    | default _ hseen =>
      exact ⟨List.nodup_nil, fun _ hkey => absurd hkey List.not_mem_nil, fun h => absurd h hseen⟩
    | last | more => exact absurd rfl (hshort _ _ _)

/-- A first argument starts with a special, since an identifier counts as one. -/
theorem startsSpecial_of_readsFirst {d : Nat} {s u : Scanner} {items : Template}
    (h : ReadsFirst d s items u) : items.StartsSpecial := by
  cases h with
  | template hp hitems => exact startsSpecial_of_reads hp hitems
  | identifier => exact ⟨_, rfl, rfl⟩

/-- Arguments that are read by a shape are as many as it asks for. -/
theorem fits_of_readsShape {d : Nat} {shape : Shape} {s u : Scanner} {arguments : List Template}
    (h : ReadsShape d shape s arguments u) : shape.Fits arguments := by
  cases h with
  | nothing => exact ⟨Nat.zero_le _, Nat.zero_le _, fun _ => nofun⟩
  | listed hleast harguments =>
    obtain ⟨hmin, hmax⟩ := length_of_readsListed harguments
    exact ⟨hmin, hmax, fun hzero hempty =>
      hleast hzero (peek?_of_readsListed harguments hempty)⟩
  | identifierFirst hfirst harguments =>
    exact ⟨startsSpecial_of_readsFirst hfirst, length_of_readsListed harguments⟩
  | variadic harguments => exact ne_nil_of_readsMany harguments
  | cases hvalue hcases =>
    obtain ⟨hnodup, -, htwo⟩ := keys_of_readsCases hcases
    exact ⟨startsSpecial_of_readsFirst hvalue, htwo rfl, hnodup⟩

theorem length_of_readsDefault {d : Nat} {s u : Scanner} {arguments : List Template}
    (h : ReadsDefault d s arguments u) : arguments.length ≤ 1 := by
  cases h <;> simp

/-- A function accepts the arguments that are read for it. -/
theorem accepts_of_readsCall {d : Nat} {name : List Char} {s u : Scanner} {builtin : Builtin}
    {arguments : List Template} (h : ReadsCall d name s builtin arguments u) :
    builtin.Accepts arguments := by
  cases h with
  | lookup _ _ _ hdefault => exact length_of_readsDefault hdefault
  | plain _ hbuiltin harguments =>
    have hplain := List.mem_of_find?_eq_some hbuiltin
    have hfits := fits_of_readsShape harguments
    cases builtin with
    | lookup => simp [Builtin.plain] at hplain
    | _ => exact hfits

/-! ### Templates in a number of specials -/

/-- A template in which `n` specials may lie in one another. -/
structure SoundWithin (n : Nat) (t : Template) : Prop where
  separated : t.Separated
  sound : ∀ item ∈ t, item.Sound
  nesting : Item.nestingOfItems t ≤ n

/-- Arguments in which `n` specials may lie in one another; `bare` says whether the first one may
be a bare identifier. -/
structure ArgumentsWithin (n : Nat) (bare : Bool) (arguments : List Template) : Prop where
  separated : ∀ argument ∈ arguments, argument.Separated
  sound : ∀ argument ∈ arguments, ∀ item ∈ argument, item.Sound
  nesting : Item.nestingOfArguments bare arguments ≤ n

section

variable {n : Nat} {bare : Bool} {first item : Item} {items argument : Template}
  {arguments : List Template}

/-- A text is sound and nests nothing. -/
theorem soundWithin_text (text : List Char) : SoundWithin n (textItems text) := by
  cases text with
  | nil => exact ⟨.nil, nofun, Nat.zero_le _⟩
  | cons c text =>
    refine ⟨.singleton _, ?_, by simp [textItems, Item.nestingOfItems, Item.nesting]⟩
    intro item hitem
    rw [List.mem_singleton.1 hitem]
    exact .literal (by simp)

/-- A special may stand in front of whatever is sound. -/
theorem SoundWithin.cons (hitem : item.Sound) (hliteral : item.isLiteral = false)
    (hnesting : item.nesting ≤ n) (h : SoundWithin n items) : SoundWithin n (item :: items) := by
  refine ⟨List.isChain_cons.2 ⟨fun b _ hab => ?_, h.separated⟩, ?_, ?_⟩
  · rw [hliteral] at hab
    exact Bool.false_ne_true hab.1
  · exact List.forall_mem_cons.2 ⟨hitem, h.sound⟩
  · exact Nat.max_le.2 ⟨hnesting, h.nesting⟩

/-- A text in front of a special. -/
theorem SoundWithin.textItems_append (text : List Char) (hliteral : first.isLiteral = false)
    (h : SoundWithin n (first :: items)) : SoundWithin n (textItems text ++ first :: items) := by
  cases text with
  | nil => exact h
  | cons c text =>
    refine ⟨List.isChain_cons_cons.2 ⟨fun hab => ?_, h.separated⟩, ?_, ?_⟩
    · rw [hliteral] at hab
      exact Bool.false_ne_true hab.2
    · exact List.forall_mem_cons.2 ⟨.literal (by simp), h.sound⟩
    · exact Nat.max_le.2 ⟨Nat.zero_le _, h.nesting⟩

theorem ArgumentsWithin.nil : ArgumentsWithin n bare [] :=
  ⟨nofun, nofun, by simp [Item.nestingOfArguments]⟩

/-- One more argument in front nests no deeper than it does itself. -/
theorem ArgumentsWithin.cons (hargument : SoundWithin n argument)
    (h : ArgumentsWithin n false arguments) : ArgumentsWithin n bare (argument :: arguments) := by
  refine ⟨List.forall_mem_cons.2 ⟨hargument.separated, h.separated⟩,
    List.forall_mem_cons.2 ⟨hargument.sound, h.sound⟩, ?_⟩
  rw [Item.nestingOfArguments]
  refine Nat.max_le.2 ⟨?_, h.nesting⟩
  split
  · exact Nat.zero_le _
  · exact hargument.nesting

/-- A bare identifier may stand in front without a place for a special. -/
theorem ArgumentsWithin.bare_cons (hitem : item.IsIdentifier)
    (h : ArgumentsWithin n false arguments) :
    ArgumentsWithin n true ([.replacement item false] :: arguments) := by
  refine ⟨List.forall_mem_cons.2 ⟨.singleton _, h.separated⟩,
    List.forall_mem_cons.2 ⟨?_, h.sound⟩, ?_⟩
  · intro item' hitem'
    rw [List.mem_singleton.1 hitem']
    exact .replacement hitem
  · simp only [Item.nestingOfArguments, isBare, Bool.and_self, if_true]
    exact Nat.max_le.2 ⟨Nat.zero_le _, h.nesting⟩

end

/-! ### Templates that are read -/

/-- What is read as an identifier is one, with letters in front or without. -/
theorem isIdentifier_of_run (name : List Char) {start : Nat} {text : List Char} {s u : Scanner}
    {item : Item} (hname : ∀ c ∈ name, isIdentifierChar c = true)
    (hrun : s.run isIdentifierChar = (text, u))
    (hitem : identifierItem (name ++ text) start = .ok item) : item.IsIdentifier := by
  refine isIdentifier_of_identifierItem (fun c hc => ?_) hitem
  rcases List.mem_append.1 hc with hc | hc
  · exact hname c hc
  · rw [← (Prod.mk.inj hrun).1] at hc
    exact Scanner.of_mem_run hc

/-- What is read as an identifier is one, and the letters in front of it belong to it. -/
theorem isIdentifier_of_readsIdentifier {start : Nat} {name : List Char} {s t u : Scanner}
    {item : Item} (hname : t.run Char.isAlpha = (name, s))
    (h : ReadsIdentifier start name s item u) : item.IsIdentifier := by
  cases h with
  | parenthesised hrun hitem => exact isIdentifier_of_run [] nofun hrun hitem
  | bare _ hrun hitem =>
    refine isIdentifier_of_run name (fun c hc => ?_) hrun hitem
    rw [← (Prod.mk.inj hname).1] at hc
    have halpha := Text.isAlphanum_iff.2 (.inl (Scanner.of_mem_run hc))
    simp [isIdentifierChar, halpha]

mutual

/-- The specials of a template that is read at some depth lie in one another no deeper than is left.
-/
theorem soundWithin_of_readsItems {d : Nat} {e : Ending} {s u : Scanner} {items : Template} :
    ReadsItems d e s items u → SoundWithin (maxNesting - d) items
  | .text _ _ => soundWithin_text _
  | .special _ hspecial hitems => by
    obtain ⟨hitem, hnesting⟩ := sound_of_readsSpecial hspecial
    have hliteral := isLiteral_of_readsSpecial hspecial
    exact .textItems_append _ hliteral
      (.cons hitem hliteral hnesting (soundWithin_of_readsItems hitems))

/-- The same of a special, which takes one level. -/
theorem sound_of_readsSpecial {d : Nat} {s u : Scanner} {item : Item} :
    ReadsSpecial d s item u → item.Sound ∧ item.nesting ≤ maxNesting - d
  | .call hd _ _ _ hcall => by
    have h := argumentsWithin_of_readsCall hcall
    refine ⟨.call (accepts_of_readsCall hcall) h.separated h.sound, ?_⟩
    have := h.nesting
    rw [Item.nesting]
    omega
  | .replacement hd _ hrun hidentifier => by
    refine ⟨.replacement (isIdentifier_of_readsIdentifier hrun hidentifier), ?_⟩
    rw [Item.nesting]
    omega

/-- The same of the arguments of a call. -/
theorem argumentsWithin_of_readsCall {d : Nat} {name : List Char} {s u : Scanner}
    {builtin : Builtin} {arguments : List Template} :
    ReadsCall d name s builtin arguments u →
    ArgumentsWithin (maxNesting - d) builtin.shape.takesIdentifier arguments
  | .lookup _ _ _ hdefault => argumentsWithin_of_readsDefault hdefault
  | .plain _ _ harguments => argumentsWithin_of_readsShape harguments

theorem argumentsWithin_of_readsDefault {d : Nat} {s u : Scanner} {arguments : List Template} :
    ReadsDefault d s arguments u → ArgumentsWithin (maxNesting - d) false arguments
  | .nothing => .nil
  | .given hdefault => .cons (soundWithin_of_readsItems hdefault) .nil

/-- The same of arguments of whichever shape. -/
theorem argumentsWithin_of_readsShape {d : Nat} {shape : Shape} {s u : Scanner}
    {arguments : List Template} : ReadsShape d shape s arguments u →
    ArgumentsWithin (maxNesting - d) shape.takesIdentifier arguments
  | .nothing => .nil
  | .listed _ harguments => argumentsWithin_of_readsListed harguments
  | .identifierFirst hfirst harguments =>
    argumentsWithin_of_readsFirst hfirst (argumentsWithin_of_readsListed harguments)
  | .variadic harguments => argumentsWithin_of_readsMany harguments
  | .cases hvalue hcases =>
    argumentsWithin_of_readsFirst hvalue (argumentsWithin_of_readsCases hcases)

/-- The same with a first argument in front, which may be bare. -/
theorem argumentsWithin_of_readsFirst {d : Nat} {s u : Scanner} {first : Template}
    {arguments : List Template} : ReadsFirst d s first u →
    ArgumentsWithin (maxNesting - d) false arguments →
    ArgumentsWithin (maxNesting - d) true (first :: arguments)
  | .template _ hitems => .cons (soundWithin_of_readsItems hitems)
  | .identifier _ hrun hitem => .bare_cons (isIdentifier_of_run [] nofun hrun hitem)

theorem argumentsWithin_of_readsListed {d least : Nat} {endings : List Ending} {s u : Scanner}
    {arguments : List Template} : ReadsListed d endings least s arguments u →
    ArgumentsWithin (maxNesting - d) false arguments
  | .last hargument _ => .cons (soundWithin_of_readsItems hargument) .nil
  | .more hargument _ harguments =>
    .cons (soundWithin_of_readsItems hargument) (argumentsWithin_of_readsListed harguments)

theorem argumentsWithin_of_readsMany {d : Nat} {s u : Scanner} {arguments : List Template} :
    ReadsMany d s arguments u → ArgumentsWithin (maxNesting - d) false arguments
  | .last hargument => .cons (soundWithin_of_readsItems hargument) .nil
  | .more hargument harguments =>
    .cons (soundWithin_of_readsItems hargument) (argumentsWithin_of_readsMany harguments)

/-- The same of cases. -/
theorem argumentsWithin_of_readsCases {d : Nat} {seen cases : List Template} {s u : Scanner} :
    ReadsCases d seen s cases u → ArgumentsWithin (maxNesting - d) false cases
  | .default hdefault _ => .cons (soundWithin_of_readsItems hdefault) .nil
  | .last hkey _ houtput _ =>
    .cons (soundWithin_of_readsItems hkey) (.cons (soundWithin_of_readsItems houtput) .nil)
  | .more hkey _ houtput _ hcases =>
    .cons (soundWithin_of_readsItems hkey)
      (.cons (soundWithin_of_readsItems houtput) (argumentsWithin_of_readsCases hcases))

end

end Template

/-! ### Templates that are parsed -/

/-- Escaping makes no text of a special. -/
theorem Item.isLiteral_atTop (item : Item) : item.atTop.isLiteral = item.isLiteral := by
  cases item <;> rfl

theorem Item.nesting_atTop (item : Item) : item.atTop.nesting = item.nesting := by
  cases item <;> simp [Item.atTop, Item.nesting]

/-- A sound item is sound at the top, too. -/
theorem Item.Sound.atTop {item : Item} (h : item.Sound) : item.atTop.SoundAtTop := by
  cases h with
  | literal htext => exact .literal htext
  | replacement hitem => exact .escaped (.replacement hitem) rfl
  | call haccepts hseparated hsound => exact .escaped (.call haccepts hseparated hsound) rfl

theorem Item.nestingOfItems_map_atTop (items : List Item) :
    Item.nestingOfItems (items.map Item.atTop) = Item.nestingOfItems items := by
  induction items with
  | nil => rfl
  | cons item items ih => simp only [List.map_cons, Item.nestingOfItems, item.nesting_atTop, ih]

namespace Template

/-- What is read by the rules is well-formed once its specials are escaped. -/
theorem WellFormed.of_reads {items : Template} {s u : Text.Scanner} {e : Ending}
    (h : ReadsItems 0 e s items u) : WellFormed (items.map Item.atTop) := by
  obtain ⟨hseparated, hsound, hnesting⟩ := soundWithin_of_readsItems h
  refine ⟨?_, ?_, ?_⟩
  · refine (List.isChain_map _).2 ?_
    simp only [Item.isLiteral_atTop]
    exact hseparated
  · intro item hitem
    obtain ⟨inner, hinner, rfl⟩ := List.mem_map.1 hitem
    exact (hsound inner hinner).atTop
  · rw [Item.nestingOfItems_map_atTop]
    exact hnesting

/-- Parsing gives well-formed templates only. -/
theorem wellFormed_of_parse {text : String} {t : Template} (h : parse text = .ok t) :
    t.WellFormed := by
  obtain ⟨items, u, hread, rfl⟩ := reads_of_parse h
  exact .of_reads hread

/-- A bare identifier and a value in the arguments of a condition. -/
theorem wellFormed_condition :
    WellFormed [.escaped (.call .ifGiven
      [[.replacement (.identifier "n") false],
        [.replacement (.argument 1 true) false]] false)] := by
  have hvalue : ReadsItems 1 .commaOrParenthesis ⟨['$', '(', '1', '-', ')', ')'], 6⟩
      (textItems [] ++ [.replacement (.argument 1 true) false]) ⟨[')'], 11⟩ := by
    refine .special rfl (.replacement ?_ (.optional ?_) rfl (.parenthesised rfl rfl))
      (.text rfl ?_) <;> decide
  have hcall : ReadsSpecial 0 ⟨['i', 'f', '(', 'n', ',', '$', '(', '1', '-', ')', ')'], 1⟩
      (.call .ifGiven
        [[.replacement (.identifier "n") false], [.replacement (.argument 1 true) false]] false)
      ⟨[], 12⟩ := by
    refine .call ?_ (.optional ?_) rfl ?_ (.plain ?_ rfl
      (.identifierFirst (.identifier ?_ rfl rfl) (.last hvalue ?_))) <;> decide
  have hreads : ReadsItems 0 .none (.ofString "$if(n,$(1-))") _ ⟨[], 12⟩ :=
    .special rfl hcall (.text rfl (by decide))
  exact wellFormed_of_parse (parse_of_reads hreads)

end Template

end CommandTemplate
