import CommandTemplate.Proofs.Evaluation.FixedText

/-!
Switches with fixed keys.

A switch takes the first case whose key has the text of its value.  If the keys are templates
without specials, it looks the text up among theirs (`switchOn_inTurn`).  In a switch that was read
no two keys are the same template, and for such templates this means that no two of them have the
same text.  So there is one case at most, wherever it stands: `evaluate_switch_of_perm`.
-/

namespace CommandTemplate

open Evaluation

/-! ### Look-ups -/

section

variable {α β : Type} [BEq α] [LawfulBEq α] {l l' : List (α × β)}

/-- If no key occurs twice, what is found is what stands there. -/
theorem lookup_eq_some_iff_mem (h : (l.map Prod.fst).Nodup) {a : α} {b : β} :
    l.lookup a = some b ↔ (a, b) ∈ l := by
  induction l with
  | nil => simp
  | cons first others ih =>
    obtain ⟨key, value⟩ := first
    obtain ⟨hkey, hothers⟩ := List.nodup_cons.1 h
    rw [List.lookup_cons, List.mem_cons]
    by_cases heq : a = key
    · have hmem : (a, b) ∉ others := fun hmem =>
        hkey (List.mem_map.2 ⟨(a, b), hmem, heq⟩)
      simp [heq ▸ hmem, heq, eq_comm]
    · have hne : (a == key) = false := beq_eq_false_iff_ne.2 heq
      simp [hne, heq, ih hothers]

/-- If no key occurs twice, the order does not matter. -/
theorem lookup_eq_of_perm (hperm : l'.Perm l) (h : (l.map Prod.fst).Nodup) (a : α) :
    l'.lookup a = l.lookup a := by
  have h' : (l'.map Prod.fst).Nodup := (hperm.map Prod.fst).nodup_iff.2 h
  ext b
  rw [lookup_eq_some_iff_mem h, lookup_eq_some_iff_mem h', hperm.mem_iff]

end

namespace Template

/-! ### Cases -/

/-- The keys and outputs of cases in turn, and then the default, if there is one. -/
def inTurn (cases : List (Template × Template)) (default : Option Template) : List Template :=
  cases.flatMap (fun (key, output) => [key, output]) ++ default.toList

section

variable {cases cases' : List (Template × Template)}

theorem inTurn_cons (key output : Template) (cases : List (Template × Template))
    (default : Option Template) :
    inTurn ((key, output) :: cases) default = key :: output :: inTurn cases default := rfl

/-- All arguments are cases in turn, with a default if their number is odd. -/
theorem exists_inTurn : ∀ arguments : List Template, ∃ cases default,
    arguments = inTurn cases default
  | [] => ⟨[], none, rfl⟩
  | [output] => ⟨[], some output, rfl⟩
  | key :: output :: others => by
    obtain ⟨cases, default, hothers⟩ := exists_inTurn others
    exact ⟨(key, output) :: cases, default, by rw [inTurn_cons, ← hothers]⟩

theorem mem_inTurn_of_mem_keys {key : Template} (h : key ∈ cases.map Prod.fst)
    (default : Option Template) : key ∈ inTurn cases default := by
  obtain ⟨first, hfirst, rfl⟩ := List.mem_map.1 h
  exact List.mem_append_left _ (List.mem_flatMap.2 ⟨first, hfirst, List.mem_cons_self⟩)

/-- The keys stand in front of the outputs. -/
theorem caseKeys_inTurn (cases : List (Template × Template)) (default : Option Template) :
    caseKeys (inTurn cases default) = cases.map Prod.fst := by
  induction cases with
  | nil => cases default <;> rfl
  | cons first others ih => rw [inTurn_cons, caseKeys, ih, List.map_cons]

/-! ### Fixed keys -/

/-- The text of a key. -/
def keyText (key : Template) : String :=
  key.fixedText?.getD ""

/-- Cases by the texts of their keys. -/
def byText (cases : List (Template × Template)) : List (String × Template) :=
  cases.map fun (key, output) => (key.keyText, output)

/-- Are there no specials in the keys? -/
def FixedKeys (cases : List (Template × Template)) : Prop :=
  ∀ key ∈ cases.map Prod.fst, ∀ item ∈ key, item.isLiteral = true

instance : DecidablePred FixedKeys := fun cases =>
  inferInstanceAs (Decidable (∀ key ∈ cases.map Prod.fst, ∀ item ∈ key, item.isLiteral = true))

theorem fixedText?_of_literals {key : Template} (h : ∀ item ∈ key, item.isLiteral = true) :
    key.fixedText? = some key.keyText := by
  obtain ⟨text, htext⟩ := exists_fixedText? h
  rw [keyText, htext, Option.getD_some]

/-- The output of the case whose key has the text, or else the default. -/
theorem switchOn_inTurn (hkeys : FixedKeys cases) (text : String) (default : Option Template)
    (callCommand : Template → Evaluator) (p : Parameters) :
    switchOn text p (Item.evaluators callCommand (inTurn cases default)) =
      Item.evaluateAll callCommand ((((byText cases).lookup text).or default).getD []) p := by
  induction cases with
  | nil => cases default <;> rfl
  | cons first others ih =>
    obtain ⟨key, output⟩ := first
    obtain ⟨hkey, hothers⟩ := List.forall_mem_cons.1 hkeys
    have hpure := evaluateAll_of_fixedText? (fixedText?_of_literals hkey) callCommand p
    have hcases : byText ((key, output) :: others) = (key.keyText, output) :: byText others := rfl
    rw [inTurn_cons, Item.evaluators, Item.evaluators, switchOn, hpure, pure_bind, ih hothers,
      hcases, List.lookup_cons]
    -- the switch and the look-up go on to the other cases together
    by_cases htext : key.keyText = text
    · rw [if_pos htext, beq_iff_eq.2 htext.symm]
      rfl
    · rw [if_neg htext, beq_eq_false_iff_ne.2 (Ne.symm htext)]

/-- The order of cases does not matter if their keys have different texts. -/
theorem switchOn_of_perm (hperm : cases'.Perm cases) (hkeys : FixedKeys cases)
    (hnodup : ((byText cases).map Prod.fst).Nodup) (text : String) (default : Option Template)
    (callCommand : Template → Evaluator) (p : Parameters) :
    switchOn text p (Item.evaluators callCommand (inTurn cases' default)) =
      switchOn text p (Item.evaluators callCommand (inTurn cases default)) := by
  have hkeys' : FixedKeys cases' := fun key hkey =>
    hkeys key ((hperm.map Prod.fst).mem_iff.1 hkey)
  have hlookup : (byText cases').lookup text = (byText cases).lookup text :=
    lookup_eq_of_perm (hperm.map _) hnodup text
  rw [switchOn_inTurn hkeys, switchOn_inTurn hkeys', hlookup]

/-- Keys that are such as texts are read as are told from one another by their texts. -/
theorem nodup_byText (hnodup : (cases.map Prod.fst).Nodup) (hkeys : FixedKeys cases)
    (hread : ∀ key ∈ cases.map Prod.fst, key.Separated ∧ ∀ item ∈ key, item.Sound) :
    ((byText cases).map Prod.fst).Nodup := by
  have htexts : (byText cases).map Prod.fst = (cases.map Prod.fst).map keyText := by
    rw [byText, List.map_map, List.map_map]
    rfl
  have hitems : ∀ key ∈ cases.map Prod.fst, key = textItems key.keyText.toList := by
    intro key hkey
    obtain ⟨hseparated, hsound⟩ := hread key hkey
    exact eq_textItems_of_fixedText? hseparated hsound (fixedText?_of_literals (hkeys key hkey))
  rw [htexts]
  refine hnodup.map_on fun key hkey other hother htext => ?_
  rw [hitems key hkey, hitems other hother, htext]

end

/-! ### Switches that were read -/

theorem evaluate_switch (value : Template) (arguments : List Template) (required : Bool)
    (callCommand : Template → Evaluator) (p : Parameters) :
    (Item.call .switch (value :: arguments) required).evaluate callCommand p =
      Item.evaluateAll callCommand value p >>= demand required >>= fun text =>
        switchOn text p (Item.evaluators callCommand arguments) := rfl

/-- What is known of the arguments of a switch that was read. -/
theorem switch_of_mem_nodes {source : String} {t : Template}
    {arguments : List Template} {required : Bool} (hparse : parse source = .ok t)
    (hnode : .call .switch arguments required ∈ t.nodes) :
    Shape.cases.Fits arguments ∧ ∀ argument ∈ arguments,
      argument.Separated ∧ ∀ item ∈ argument, item.Sound := by
  rcases sound_of_mem_nodes hparse hnode with htop | hsound | hidentifier
  · cases htop
  · cases hsound with
    | call haccepts hseparated hsound =>
      exact ⟨haccepts, fun argument h => ⟨hseparated argument h, hsound argument h⟩⟩
  · cases hidentifier

/-- The arguments of a switch that was read are a value, at least one case and maybe a default.  If
there are no specials in the keys, the call does the same with the cases in any order. -/
theorem evaluate_switch_of_perm {source : String} {t : Template} {arguments : List Template}
    {required : Bool} (hparse : parse source = .ok t)
    (hnode : .call .switch arguments required ∈ t.nodes) :
    (∃ value cases default, arguments = value :: inTurn cases default ∧ cases ≠ []) ∧
    ∀ value cases default, arguments = value :: inTurn cases default →
      FixedKeys cases → ∀ cases', cases'.Perm cases → ∀ callCommand required p,
        (Item.call .switch (value :: inTurn cases' default) required).evaluate callCommand p =
          (Item.call .switch (value :: inTurn cases default) required).evaluate callCommand p := by
  obtain ⟨hfits, harguments⟩ := switch_of_mem_nodes hparse hnode
  constructor
  · cases arguments with
    | nil => cases hfits
    | cons value others =>
      obtain ⟨cases, default, rfl⟩ := exists_inTurn others
      refine ⟨value, cases, default, rfl, ?_⟩
      rintro rfl
      have htwo := hfits.2.1
      cases default <;> simp [inTurn] at htwo
  · rintro value cases default rfl hkeys cases' hperm callCommand required p
    -- the keys are different as templates, and so their texts are different
    have hnodup := hfits.2.2
    rw [caseKeys_inTurn] at hnodup
    have hread : ∀ key ∈ cases.map Prod.fst, key.Separated ∧ ∀ item ∈ key, item.Sound :=
      fun key hkey => harguments key (List.mem_cons_of_mem _ (mem_inTurn_of_mem_keys hkey default))
    have hdistinct := nodup_byText hnodup hkeys hread
    rw [evaluate_switch, evaluate_switch]
    exact bind_congr fun text =>
      switchOn_of_perm hperm hkeys hdistinct text default callCommand p

/-- A colon in a key is escaped, and its case may come first or second. -/
theorem evaluate_switch_of_perm_swap :
    let source := "$switch(x,a\\:b:1,c,2,3)"
    let value : Template := [.replacement (.identifier "x") false]
    let first : Template × Template := ([.literal "a:b"], [.literal "1"])
    let second : Template × Template := ([.literal "c"], [.literal "2"])
    let default : Option Template := some [.literal "3"]
    let node (cases : List (Template × Template)) (required : Bool) : Item :=
      .call .switch (value :: inTurn cases default) required
    let t : Template := [.escaped (node [first, second] false)]
    parse source = .ok t ∧ node [first, second] false ∈ t.nodes ∧
      ∀ callCommand required p, (node [second, first] required).evaluate callCommand p =
        (node [first, second] required).evaluate callCommand p := by
  intro source value first second default node t
  have hcases : ReadsCases 1 [] ⟨"a\\:b:1,c,2,3)".toList, 10⟩
      (inTurn [first, second] default) ⟨[], 23⟩ := by
    refine .more (.text rfl ?_) (.inl rfl) (.text rfl ?_) ?_ (.more (.text rfl ?_) (.inr rfl)
      (.text rfl ?_) ?_ (.default (.text rfl ?_) ?_)) <;> decide
  have hcall : ReadsSpecial 0 ⟨"switch(x,a\\:b:1,c,2,3)".toList, 1⟩ (node [first, second] false)
      ⟨[], 23⟩ := by
    refine .call ?_ (.optional ?_) rfl ?_ (.plain ?_ rfl
      (.cases (.identifier ?_ rfl rfl) hcases)) <;> decide
  have hreads : ReadsItems 0 .none (.ofString "$switch(x,a\\:b:1,c,2,3)") _ ⟨[], 23⟩ :=
    .special rfl hcall (.text rfl (by decide))
  have hparse : parse source = .ok t := parse_of_reads hreads
  have hnode : node [first, second] false ∈ t.nodes := by
    simp [t, node, nodes, Item.nodes, Item.nodesOfItems]
  refine ⟨hparse, hnode, fun callCommand required p => ?_⟩
  exact (evaluate_switch_of_perm hparse hnode).2 value [first, second] default rfl (by decide)
    [second, first] (.swap first second []) callCommand required p

end Template

end CommandTemplate
