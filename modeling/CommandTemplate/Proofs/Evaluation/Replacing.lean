import CommandTemplate.Proofs.Evaluation.Limit
import CommandTemplate.Proofs.Regex.References

/-!
Calls of `replace` with a pattern.

The replacement of such a call is evaluated for each match (`regFunc`), or once, and then it may
refer to the groups of the matches (`regRef`) or not (`reg`).  Where it is evaluated for each match,
the texts it yields are spliced into the text (`runFrom_replaceMatches`).
-/

namespace CommandTemplate

open Evaluation

/-! ### Images of matches -/

/-- What a replacement yields for a match. -/
def imageOf (image : Evaluator) (p : Parameters) (whole : List Char)
    (groups : List (Option (List Char))) : Evaluation String :=
  image (p.forMatch (String.ofList whole) (groups.map fun group => String.ofList (group.getD [])))

/-- What a replacement yields for matches in a text, one after the other. -/
def imagesIn (image : Evaluator) (p : Parameters) (text : List Char) (found : List Regex.Match) :
    Evaluation (List String) :=
  found.mapM fun m => imageOf image p (Regex.slice text m.start m.stop) m.groups

section

variable {image : Evaluator} {p : Parameters}

theorem replaceSegments_cons (m : Regex.Segment) (segments : List Regex.Segment) :
    replaceSegments image p (m :: segments) = do
      let text ← imageOf image p m.whole m.groups
      let rest ← replaceSegments image p segments
      return String.ofList m.before ++ text ++ rest := rfl

/-- Where the images are known, nothing else is evaluated. -/
theorem replaceSegments_pure {f : Regex.Segment → List Char}
    (h : ∀ m : Regex.Segment, imageOf image p m.whole m.groups = pure (String.ofList (f m)))
    (segments : List Regex.Segment) :
    replaceSegments image p segments =
      pure (String.ofList (segments.flatMap fun m => m.before ++ f m)) := by
  induction segments with
  | nil => rfl
  | cons m segments ih =>
    rw [replaceSegments_cons, h, ih, pure_bind, pure_bind, List.flatMap_cons]
    simp only [String.ofList_append]

/-- The texts before the matches of segments with other texts behind them. -/
def joinImages (segments : List Regex.Segment) (texts : List String) : List Char :=
  (segments.zip (texts.map String.toList)).flatMap fun (m, image) => m.before ++ image

/-- Segments are put together when all their images are there. -/
theorem replaceSegments_eq (segments : List Regex.Segment) :
    replaceSegments image p segments =
      (fun texts => String.ofList (joinImages segments texts)) <$>
        segments.mapM fun m => imageOf image p m.whole m.groups := by
  induction segments with
  | nil => simp [replaceSegments, joinImages]
  | cons m segments ih =>
    rw [replaceSegments_cons, ih, List.mapM_cons]
    simp [joinImages, String.ofList_append, String.append_assoc]

/-- The images of a text are those of its segments. -/
theorem imagesIn_matchesIn (regex : Regex) (text : List Char) :
    imagesIn image p text (regex.matchesIn text) =
      (regex.segments text).1.mapM fun m => imageOf image p m.whole m.groups := by
  have hplaces := Regex.map_placesFrom (imageOf image p) [] (regex.segments text).1
    (regex.segments text).2
  -- without a front, the places are those of the text
  rw [List.nil_append, Regex.flatMap_segments] at hplaces
  have himages := congrArg (List.mapM id) hplaces
  rwa [List.mapM_map, List.mapM_map] at himages

/-- What follows the last match stays as it is. -/
theorem replaceMatches_eq (regex : Regex) (text : String) :
    replaceMatches regex image text p =
      (· ++ String.ofList (regex.segments text.toList).2) <$>
        replaceSegments image p (regex.segments text.toList).1 :=
  bind_pure_comp _ _

/-- A mapped value comes from a value that was yielded. -/
theorem runFrom_map_eq_ok {α β : Type} {f : α → β} {x : Evaluation α} {b : β} {s t : Trace} :
    (f <$> x).runFrom s = (.ok b, t) ↔ ∃ a, x.runFrom s = (.ok a, t) ∧ f a = b := by
  rw [runFrom_map]
  obtain ⟨result, u⟩ := x.runFrom s
  cases result <;> simp [Except.map, and_comm]

/-- Each item yields one value. -/
theorem length_of_runFrom_mapM {α β : Type} {f : α → Evaluation β} {as : List α} {bs : List β}
    {s t : Trace} (h : (as.mapM f).runFrom s = (.ok bs, t)) : bs.length = as.length := by
  induction as generalizing s bs with
  | nil =>
    rw [List.mapM_nil] at h
    cases h
    rfl
  | cons a as ih =>
    rw [List.mapM_cons, runFrom_bind] at h
    split at h
    · rw [bind_pure_comp, runFrom_map_eq_ok] at h
      obtain ⟨bs, hrest, rfl⟩ := h
      rw [List.length_cons, List.length_cons, ih hrest]
    · cases h

/-- A text whose matches have images is spliced together with them. -/
theorem runFrom_replaceMatches {regex : Regex} {text : String} {texts : List String} {s t : Trace}
    (h : (imagesIn image p text.toList (regex.matchesIn text.toList)).runFrom s = (.ok texts, t)) :
    ∃ out, (replaceMatches regex image text p).runFrom s = (.ok out, t) ∧
      Regex.splice? text.toList 0
        ((regex.matchesIn text.toList).zip (texts.map String.toList)) = some out.toList := by
  rw [imagesIn_matchesIn] at h
  have hlength : (texts.map String.toList).length = (regex.segments text.toList).1.length := by
    rw [List.length_map, length_of_runFrom_mapM h]
  have hsplice := Regex.splice?_matchesIn regex text.toList hlength
  refine ⟨String.ofList (joinImages (regex.segments text.toList).1 texts) ++
    String.ofList (regex.segments text.toList).2, ?_, ?_⟩
  · rw [replaceMatches_eq, replaceSegments_eq, runFrom_map_eq_ok]
    exact ⟨_, runFrom_map_eq_ok.2 ⟨texts, h, rfl⟩, rfl⟩
  · rw [hsplice, String.toList_append, String.toList_ofList, String.toList_ofList, joinImages]

/-- Where the images are known, the whole text is. -/
theorem replaceMatches_pure {f : Regex.Segment → List Char}
    (h : ∀ m : Regex.Segment, imageOf image p m.whole m.groups = pure (String.ofList (f m)))
    (regex : Regex) (text : String) :
    replaceMatches regex image text p = pure (regex.replaceWith .all f text) := by
  rw [replaceMatches_eq, replaceSegments_pure h, map_pure, ← String.ofList_append]
  rfl

end

/-! ### Calls -/

namespace Item

/-- A call of `replace` with the name of its mode. -/
def replaceCall (value search replacement : Template) (mode : String) (required : Bool) : Item :=
  .call .replace [value, search, replacement, [.literal mode]] required

variable {callCommand : Template → Evaluator} {value search : Template} {required : Bool}
  {p : Parameters} {text source : String} {s t u : Trace}

theorem evaluateAll_literal (fixed : String) (q : Parameters) :
    evaluateAll callCommand [.literal fixed] q = pure fixed := by
  simp [evaluateAll, evaluate]

/-- The first argument, from parameters that have no other. -/
theorem evaluateAll_argument {whole : String} {q : Parameters} (h : q.arguments = [whole]) :
    evaluateAll callCommand [.replacement (.argument 1 false) false] q = pure whole := by
  have hargument : q.argument? (1 - 1) false = some whole := by simp [Parameters.argument?, h]
  have hitem : evaluate callCommand (.replacement (.argument 1 false) false) q = pure whole := by
    rw [evaluate, evaluate, hargument]
    rfl
  simp [evaluateAll, hitem]

/-- The text and what is searched in it are evaluated before the replacement. -/
theorem runFrom_replaceCall
    (hvalue : (evaluateAll callCommand value p >>= demand required).runFrom s = (.ok text, t))
    (hsearch : (evaluateAll callCommand search p).runFrom t = (.ok source, u))
    (replacement : Template) (mode : String) :
    ((replaceCall value search replacement mode required).evaluate callCommand p).runFrom s =
      (replaced callCommand (.ofName (Text.trim mode)) text source
        (evaluateAll callCommand replacement) p).runFrom u := by
  rw [replaceCall, evaluate, Builtin.evaluate]
  simp only [argumentAt_evaluators, List.getD_cons_zero, List.getD_cons_succ]
  rw [runFrom_bind, hvalue]
  dsimp only
  rw [runFrom_bind, hsearch]
  dsimp only
  rw [evaluateAll_literal, pure_bind]

/-- A replacement that is evaluated for each match.  A fixed text is put in as it is where it is
evaluated once, the match itself changes nothing, and all other images are spliced into the text. -/
theorem replace_by_evaluation {regex : Regex}
    (hvalue : (evaluateAll callCommand value p >>= demand required).runFrom s = (.ok text, t))
    (hsearch : (evaluateAll callCommand search p).runFrom t = (.ok source, u))
    (hsource : Regex.compile source = .ok regex) :
    (∀ fixed, ∃ out,
      ((replaceCall value search [.literal fixed] "regFunc" required).evaluate
        callCommand p).runFrom s = (.ok out, u) ∧
      ((replaceCall value search [.literal fixed] "reg" required).evaluate
        callCommand p).runFrom s = (.ok out, u)) ∧
    ((replaceCall value search [.replacement (.argument 1 false) false] "regFunc"
      required).evaluate callCommand p).runFrom s = (.ok text, u) ∧
    ∀ replacement texts v,
      (imagesIn (evaluateAll callCommand replacement) p text.toList
        (regex.matchesIn text.toList)).runFrom u = (.ok texts, v) →
      ∃ out,
        ((replaceCall value search replacement "regFunc" required).evaluate
          callCommand p).runFrom s = (.ok out, v) ∧
        Regex.splice? text.toList 0
          ((regex.matchesIn text.toList).zip (texts.map String.toList)) = some out.toList := by
  have hmode : ReplaceMode.ofName (Text.trim "regFunc") = .evaluated := by decide +kernel
  have hreg : ReplaceMode.ofName (Text.trim "reg") = .fixed (.pattern .all false) := by
    decide +kernel
  -- the pattern has been compiled, so the call replaces its matches
  have hcall (replacement : Template) :
      ((replaceCall value search replacement "regFunc" required).evaluate callCommand p).runFrom s =
        (replaceMatches regex (evaluateAll callCommand replacement) text p).runFrom u := by
    rw [runFrom_replaceCall hvalue hsearch, hmode, replaced, hsource]
  refine ⟨fun fixed => ⟨regex.replaceFixed .all fixed text, ?_, ?_⟩, ?_,
    fun replacement texts v h => ?_⟩
  · rw [hcall, replaceMatches_pure (f := fun _ => fixed.toList)]
    · rfl
    · intro m
      rw [imageOf, evaluateAll_literal, String.ofList_toList]
  · rw [runFrom_replaceCall hvalue hsearch, hreg, replaced, evaluateAll_literal, pure_bind,
      Substitution.apply, replacePattern, hsource]
    rfl
  · rw [hcall, replaceMatches_pure (f := Regex.Segment.whole), Regex.replaceWith_whole]
    · rfl
    · exact fun m => evaluateAll_argument (Parameters.arguments_forMatch _ _ _)
  · rw [hcall]
    exact runFrom_replaceMatches h

/-- Two of the three matches are empty, one at each end of the text. -/
theorem exists_repeated : ∃ regex, Regex.compile "b*" = .ok regex ∧
    regex.segments ['a', 'b', 'b', 'a'] =
      ([⟨[], [], []⟩, ⟨['a'], ['b', 'b'], []⟩, ⟨['a'], [], []⟩], []) := by
  have h : (Regex.compile "b*").toOption.map (·.segments ['a', 'b', 'b', 'a']) =
      some ([⟨[], [], []⟩, ⟨['a'], ['b', 'b'], []⟩, ⟨['a'], [], []⟩], []) := by decide +kernel
  exact exists_of_toOption h

/-- Brackets around each match, also around those that are empty. -/
theorem replace_by_evaluation_brackets :
    let replacement : Template :=
      [.literal "[", .replacement (.argument 1 false) false, .literal "]"]
    ((replaceCall [.literal "abba"] [.literal "b*"] replacement "regFunc" false).evaluate
      (fun _ _ => abort) {}).runFrom {} = (.ok "[]a[bb]a[]", {}) := by
  intro replacement
  obtain ⟨regex, hregex, hsegments⟩ := exists_repeated
  have hvalue : (evaluateAll (fun _ _ => abort) [.literal "abba"] {} >>= demand false).runFrom {} =
      (.ok "abba", {}) := rfl
  have hsearch : (evaluateAll (fun _ _ => abort) [.literal "b*"] {}).runFrom {} =
      (.ok "b*", {}) := rfl
  have htext : "abba".toList = ['a', 'b', 'b', 'a'] := rfl
  have himages : (imagesIn (evaluateAll (fun _ _ => abort) replacement) {} "abba".toList
      (regex.matchesIn "abba".toList)).runFrom {} = (.ok ["[]", "[bb]", "[]"], {}) := by
    rw [imagesIn_matchesIn, htext, hsegments]
    rfl
  obtain ⟨out, hrun, hsplice⟩ :=
    (replace_by_evaluation hvalue hsearch hregex).2.2 replacement _ _ himages
  rw [Regex.matchesIn, htext, hsegments] at hsplice
  have hout : out.toList = "[]a[bb]a[]".toList := Option.some.inj (hsplice.symm.trans rfl)
  rw [hrun, String.toList_inj.1 hout]

/-- A replacement is filled in for each match, or for the first one. -/
theorem replace_by_references {regex : Regex} {replacement : Template} {mode fixed : String}
    {extent : Regex.Extent} {v : Trace}
    (hvalue : (evaluateAll callCommand value p >>= demand required).runFrom s = (.ok text, t))
    (hsearch : (evaluateAll callCommand search p).runFrom t = (.ok source, u))
    (hsource : Regex.compile source = .ok regex)
    (hmode : (mode, extent) ∈ [("regRef", .all), ("regFirstRef", .first)])
    (hreplacement : (evaluateAll callCommand replacement p).runFrom u = (.ok fixed, v))
    (hunbraced : Regex.isUnbraced fixed.toList = true) :
    ((replaceCall value search replacement mode required).evaluate callCommand p).runFrom s =
      (.ok (regex.replaceWith extent
        (fun m => Regex.fill (regex.referenceText m) fixed.toList) text), v) := by
  have hname : ReplaceMode.ofName (Text.trim mode) = .fixed (.pattern extent true) := by
    simp only [List.mem_cons, List.not_mem_nil, Prod.mk.injEq, or_false] at hmode
    rcases hmode with ⟨rfl, rfl⟩ | ⟨rfl, rfl⟩ <;> decide +kernel
  rw [runFrom_replaceCall hvalue hsearch, hname, replaced, bind_pure_comp, runFrom_map_eq_ok]
  refine ⟨fixed, hreplacement, ?_⟩
  rw [Substitution.apply, replacePattern, hsource]
  exact Regex.replaceExpanding_eq hsource hunbraced extent text

/-- One of the three groups has a name, and one does not match. -/
theorem exists_grouped : ∃ regex, Regex.compile "(?<_>a)(b)(c)?" = .ok regex ∧
    regex.names = [("_", 1)] ∧
    regex.segments ['a', 'b'] = ([⟨[], ['a', 'b'], [some ['a'], some ['b'], none]⟩], []) := by
  have h : (Regex.compile "(?<_>a)(b)(c)?").toOption.map
      (fun regex => (regex.names, regex.segments ['a', 'b'])) =
      some ([("_", 1)], [⟨[], ['a', 'b'], [some ['a'], some ['b'], none]⟩], []) := by
    decide +kernel
  obtain ⟨regex, hregex, hgroups⟩ := exists_of_toOption h
  exact ⟨regex, hregex, Prod.mk.inj hgroups⟩

/-- A name, numbers of groups that do and do not match or are not there, pairs of dollar signs, and
a single one at the end. -/
theorem replace_by_references_dollars :
    ((replaceCall [.literal "ab"] [.literal "(?<_>a)(b)(c)?"] [.literal "$_-$2x$$1$$$1$3$44$"]
      "regRef" false).evaluate (fun _ _ => abort) {}).runFrom {} = (.ok "a-bx$1$a$", {}) := by
  obtain ⟨regex, hregex, hnames, hsegments⟩ := exists_grouped
  have hvalue : (evaluateAll (fun _ _ => abort) [.literal "ab"] {} >>= demand false).runFrom {} =
      (.ok "ab", {}) := rfl
  have hsearch : (evaluateAll (fun _ _ => abort) [.literal "(?<_>a)(b)(c)?"] {}).runFrom {} =
      (.ok "(?<_>a)(b)(c)?", {}) := rfl
  have hreplacement :
      (evaluateAll (fun _ _ => abort) [.literal "$_-$2x$$1$$$1$3$44$"] {}).runFrom {} =
        (.ok "$_-$2x$$1$$$1$3$44$", {}) := rfl
  have hunbraced : Regex.isUnbraced "$_-$2x$$1$$$1$3$44$".toList = true := by decide
  have hmode : ("regRef", Regex.Extent.all) ∈ [("regRef", .all), ("regFirstRef", .first)] :=
    List.mem_cons_self
  have hfill : Regex.fill
      (regex.referenceText ⟨[], ['a', 'b'], [some ['a'], some ['b'], none]⟩)
      "$_-$2x$$1$$$1$3$44$".toList = "a-bx$1$a$".toList := by
    have htext : "$_-$2x$$1$$$1$3$44$".toList = ['$', '_', '-', '$', '2', 'x', '$', '$', '1', '$',
      '$', '$', '1', '$', '3', '$', '4', '4', '$'] := rfl
    rw [htext]
    simp [Regex.fill, Regex.isReferenceStart, Regex.isReferenceChar, Regex.referenceText, hnames,
      Number.ofDigits, Regex.Segment.groupText]
  have hab : "ab".toList = ['a', 'b'] := rfl
  rw [replace_by_references hvalue hsearch hregex hmode hreplacement hunbraced]
  simp only [Regex.replaceWith, Regex.segmentsOf, hab, hsegments, List.flatMap_singleton, hfill,
    List.nil_append, List.append_nil, String.ofList_toList]

end Item

end CommandTemplate
