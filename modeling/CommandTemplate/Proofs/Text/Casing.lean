import CommandTemplate.Proofs.Text.Blank
import CommandTemplate.Text.Casing

/-!
Texts in lower case.

A character is settled when lower case leaves it alone, and a text of settled characters is in
lower case already.  What lower case makes of a character is settled in turn: no run of the table
leads into the source of another one (`lowerRuns_avoid`), which is decided on the bounds of the
runs and then lifted to their members.
-/

namespace CommandTemplate.Text

/-- Does lower case leave a character alone? -/
structure IsSettled (c : Char) : Prop where
  lowerChar_eq : lowerChar c = [c]
  ne_sigma : c ≠ '\u03a3'

/-- An ASCII character is settled unless it is a capital letter. -/
theorem isSettled_of_ascii {c : Char} (hascii : c.toNat < 128) (hupper : ¬ c.isUpper = true) :
    IsSettled c where
  lowerChar_eq := by rw [lowerChar, if_pos hascii, toLower_of_not_isUpper hupper]
  ne_sigma := by rintro rfl; exact absurd hascii (by decide)

/-- A text of settled characters is left alone, whatever stands in front of it. -/
theorem lowerAfter_eq_self {text : List Char} (h : ∀ c ∈ text, IsSettled c)
    (before : List Char) : lowerAfter before text = text := by
  induction text generalizing before with
  | nil => rfl
  | cons c text ih =>
    obtain ⟨hc, htext⟩ := List.forall_mem_cons.1 h
    rw [lowerAfter, if_neg hc.ne_sigma, hc.lowerChar_eq, ih htext]
    rfl

/-- An ASCII text without capital letters is in lower case. -/
theorem lower_eq_self {text : String}
    (h : ∀ c ∈ text.toList, c.toNat < 128 ∧ ¬ c.isUpper = true) : lower text = text := by
  rw [lower, lowerChars, lowerAfter_eq_self fun c hc => isSettled_of_ascii (h c hc).1 (h c hc).2,
    String.ofList_toList]

/-! ### The table of lower-case characters -/

/-- Are the images of a run outside of a span?  Where their bounds overlap, both go in steps of
two, and from ends of different parity. -/
def CaseRun.avoids (run : CaseRun) (span : Span) : Bool :=
  run.image + (run.source.last - run.source.first) < span.first || span.last < run.image ||
    (span.stride = 2 && (run.source.stride = 2 || run.source.first = run.source.last) &&
      (run.image + span.first) % 2 = 1)

/-- No image of a run lies in a span that the run avoids. -/
theorem CaseRun.not_has_of_avoids {run : CaseRun} {span : Span} {n m : Nat}
    (h : run.avoids span = true) (hm : run.image? n = some m) : span.has m = false := by
  rw [image?] at hm
  split at hm
  case isFalse => cases hm
  next hn =>
  cases hm
  rw [← Bool.not_eq_true]
  simp only [avoids, Span.has, Bool.or_eq_true, Bool.and_eq_true, decide_eq_true_eq] at h hn ⊢
  rintro ⟨⟨hfirst, hlast⟩, hstride⟩
  -- in front of the span, behind it, or between its members
  rcases h with (h | h) | ⟨⟨htwo, hsource⟩, hparity⟩
  · omega
  · omega
  · rw [htwo] at hstride
    rcases hsource with hsource | hsource
    · rw [hsource] at hn
      omega
    · omega

/-- What no image is, besides a character with an image: a blank, a slash, a capital letter, and
the capital sigma and the dotted I, which have no run of their own. -/
def excluded : List (Nat × Nat) :=
  [(9, 13), (0x20, 0x20), (0x2f, 0x2f), (0x41, 0x5a), (0x85, 0x85), (0xa0, 0xa0), (0x130, 0x130),
    (0x3a3, 0x3a3), (0x1680, 0x1680), (0x2000, 0x200a), (0x2028, 0x2029), (0x202f, 0x202f),
    (0x205f, 0x205f), (0x3000, 0x3000)]

/-- Is a code point neither excluded nor the source of an image? -/
structure IsFree (n : Nat) : Prop where
  not_excluded : ∀ range ∈ excluded, ¬ (range.1 ≤ n ∧ n ≤ range.2)
  not_source : ∀ run ∈ lowerRuns, run.source.has n = false

/-- A table of runs from the characters of its text, which need not be decoded. -/
theorem caseRuns_ofList (chars : List Char) :
    caseRuns (String.ofList chars) =
      ((chars.splitOnP fun c => c = ' ' || c = '\n').filter (· ≠ [])).filterMap
        CaseRun.ofWord? := by
  rw [caseRuns, tableWords, String.toList_ofList]

set_option maxRecDepth 40000 in
/-- No run leads to what is excluded or into the source of a run. -/
theorem lowerRuns_avoid :
    (lowerRuns.all fun run => (excluded.all fun range => run.avoids ⟨range.1, range.2, 1⟩) &&
      lowerRuns.all (run.avoids ·.source)) = true := by
  rw [show lowerRuns = _ from caseRuns_ofList _]
  decide +kernel

/-- The images that the table of runs does not have: the dot of a dotted I, and both small
sigmas. -/
def otherImages : List Nat :=
  [0x307, 0x3c2, 0x3c3]

set_option maxRecDepth 40000 in
/-- No run starts at an image that is made otherwise. -/
theorem lowerRuns_not_has_other :
    (lowerRuns.all fun run => otherImages.all fun n => !run.source.has n) = true := by
  rw [show lowerRuns = _ from caseRuns_ofList _]
  decide +kernel

/-- One character alone becomes two. -/
theorem lowerLong_eq : lowerLong = [(0x130, [0x69, 0x307])] := by
  decide +kernel

/-- The images of a run are free. -/
theorem isFree_of_image? {run : CaseRun} {n m : Nat} (hrun : run ∈ lowerRuns)
    (h : run.image? n = some m) : IsFree m := by
  have hall := lowerRuns_avoid
  simp only [List.all_eq_true, Bool.and_eq_true] at hall
  obtain ⟨hexcluded, hsources⟩ := hall run hrun
  refine ⟨fun range hrange hm => ?_, fun other hother => ?_⟩
  · have hspan := CaseRun.not_has_of_avoids (hexcluded range hrange) h
    simp [Span.has, hm, Nat.mod_one] at hspan
  · exact CaseRun.not_has_of_avoids (hsources other hother) h

/-! ### Images -/

/-- Is a character one that lower case makes of others? -/
structure IsImage (c : Char) : Prop extends IsSettled c where
  not_isBlank : isBlank c = false
  ne_slash : c ≠ '/'

/-- A free code point is an image: lower case finds nothing to make of it. -/
theorem isImage_of_isFree {c : Char} (h : IsFree c.toNat) : IsImage c where
  lowerChar_eq := by
    have hbounds := h.not_excluded
    simp only [excluded, List.forall_mem_cons] at hbounds
    rw [lowerChar]
    split
    · rw [toLower_of_not_isUpper]
      rw [isUpper_iff]
      omega
    · -- it is in the source of no run, and the one long image belongs to an excluded character
      have hruns : lowerRuns.findSome? (·.image? c.toNat) = none := by
        rw [List.findSome?_eq_none_iff]
        intro run hrun
        rw [CaseRun.image?, h.not_source run hrun]
        rfl
      have hlong : lowerLong.lookup c.toNat = none := by
        rw [lowerLong_eq, List.lookup_cons, beq_eq_false_iff_ne.2 (by omega)]
        rfl
      rw [imageOf, hruns, hlong]
      rfl
  ne_sigma := by
    rintro rfl
    exact h.not_excluded (0x3a3, 0x3a3) (by decide) (by decide)
  not_isBlank := by
    have hbounds := h.not_excluded
    simp only [excluded, List.forall_mem_cons] at hbounds
    rw [← Bool.not_eq_true]
    simp only [isBlank, Bool.or_eq_true, Bool.and_eq_true, decide_eq_true_eq, beq_iff_eq]
    omega
  ne_slash := by
    rintro rfl
    exact h.not_excluded (0x2f, 0x2f) (by decide) (by decide)

theorem isImage_ofNat {n : Nat} (h : IsFree n) : IsImage (Char.ofNat n) := by
  by_cases hn : n.isValidChar
  · have hnat : (Char.ofNat n).toNat = n := by rw [Char.ofNat, dif_pos hn]; rfl
    exact isImage_of_isFree (hnat.symm ▸ h)
  · rw [Char.ofNat, dif_neg hn]
    exact ⟨⟨by decide, by decide⟩, by decide, by decide⟩

/-- Small ASCII letters are images. -/
theorem isImage_of_isLower {c : Char} (h : c.isLower = true) : IsImage c := by
  have hc := isLower_iff.1 h
  refine ⟨isSettled_of_ascii (by omega) (not_isUpper_of_isLower h), ?_, ?_⟩
  · rw [← Bool.not_eq_true]
    simp only [isBlank, Bool.or_eq_true, Bool.and_eq_true, decide_eq_true_eq, beq_iff_eq]
    omega
  · rintro rfl
    exact absurd h (by decide)

/-- The images outside of the table are images like others. -/
theorem isImage_of_mem_other {n : Nat} (h : n ∈ otherImages) : IsImage (Char.ofNat n) := by
  have hsource := lowerRuns_not_has_other
  simp only [List.all_eq_true, Bool.not_eq_true'] at hsource
  refine isImage_ofNat ⟨?_, fun run hrun => hsource run hrun n h⟩
  have hexcluded : ∀ m ∈ otherImages, ∀ range ∈ excluded, ¬ (range.1 ≤ m ∧ m ≤ range.2) := by
    decide
  exact hexcluded n h

/-- Lower case leaves a character alone, or makes images of it. -/
theorem lowerChar_eq_or_isImage (c : Char) :
    lowerChar c = [c] ∨ lowerChar c ≠ [] ∧ ∀ d ∈ lowerChar c, IsImage d := by
  rw [lowerChar]
  split
  · by_cases hupper : c.isUpper = true
    · have himage := isImage_of_isLower (isLower_toLower (isAlpha_iff.2 (.inl hupper)))
      exact .inr ⟨by simp, by simpa using himage⟩
    · exact .inl (by rw [toLower_of_not_isUpper hupper])
  · rw [imageOf]
    cases hruns : lowerRuns.findSome? (·.image? c.toNat) with
    | some n =>
      obtain ⟨run, hrun, himage⟩ := List.exists_of_findSome?_eq_some hruns
      exact .inr ⟨by simp, by simpa using isImage_ofNat (isFree_of_image? hrun himage)⟩
    | none =>
      rw [lowerLong_eq, List.lookup_cons]
      cases c.toNat == 0x130 with
      | false => exact .inl rfl
      | true =>
        have hi : IsImage 'i' := isImage_of_isLower rfl
        have hdot : IsImage (Char.ofNat 0x307) := isImage_of_mem_other (by decide)
        exact .inr ⟨by simp, by simpa using ⟨hi, hdot⟩⟩

/-! ### Texts -/

/-- Both forms of a small sigma are images. -/
theorem isImage_smallSigma (before after : List Char) : IsImage (smallSigma before after) := by
  rw [smallSigma]
  split
  · exact isImage_of_mem_other (n := 0x3c2) (by decide)
  · exact isImage_of_mem_other (n := 0x3c3) (by decide)

/-- What stands in a text for its first character `c` in lower case. -/
theorem exists_lowerAfter_cons (before text : List Char) (c : Char) :
    ∃ front, lowerAfter before (c :: text) = front ++ lowerAfter (c :: before) text ∧
      (front = [c] ∧ IsSettled c ∨ front ≠ [] ∧ ∀ d ∈ front, IsImage d) := by
  refine ⟨_, rfl, ?_⟩
  split
  · exact .inr ⟨by simp, by simpa using isImage_smallSigma before text⟩
  · next hsigma => exact (lowerChar_eq_or_isImage c).imp_left fun h => ⟨h, h, hsigma⟩

/-- A text in lower case is left alone. -/
theorem isSettled_of_mem_lowerAfter {before text : List Char} :
    ∀ c ∈ lowerAfter before text, IsSettled c := by
  induction text generalizing before with
  | nil => exact fun _ h => absurd h List.not_mem_nil
  | cons first text ih =>
    obtain ⟨front, heq, hfront⟩ := exists_lowerAfter_cons before text first
    intro c hc
    rw [heq] at hc
    rcases List.mem_append.1 hc with hc | hc
    · rcases hfront with ⟨rfl, hfirst⟩ | ⟨-, hfront⟩
      · exact List.mem_singleton.1 hc ▸ hfirst
      · exact (hfront c hc).toIsSettled
    · exact ih c hc

/-- A text in lower case starts with an image, or as the text does. -/
theorem of_mem_head?_lowerAfter {before text : List Char} {d : Char}
    (h : d ∈ (lowerAfter before text).head?) : IsImage d ∨ d ∈ text.head? := by
  cases text with
  | nil => cases h
  | cons first text =>
    obtain ⟨front, heq, hfront⟩ := exists_lowerAfter_cons before text first
    rw [heq] at h
    rcases hfront with ⟨rfl, -⟩ | ⟨hne, hfront⟩
    · exact .inr h
    · rw [List.head?_append, List.head?_eq_some_head hne] at h
      exact .inl (hfront d (Option.mem_some.1 h ▸ List.head_mem hne))

/-- No text vanishes in lower case. -/
theorem lowerAfter_ne_nil {text : List Char} (h : text ≠ []) (before : List Char) :
    lowerAfter before text ≠ [] := by
  cases text with
  | nil => exact absurd rfl h
  | cons first text =>
    obtain ⟨front, heq, hfront⟩ := exists_lowerAfter_cons before text first
    rw [heq]
    rcases hfront with ⟨rfl, -⟩ | ⟨hne, -⟩
    · simp
    · simp [hne]

/-- A text in lower case ends with an image, or as the text does. -/
theorem of_mem_getLast?_lowerAfter {before text : List Char} {d : Char}
    (h : d ∈ (lowerAfter before text).getLast?) : IsImage d ∨ d ∈ text.getLast? := by
  induction text generalizing before with
  | nil => cases h
  | cons first text ih =>
    obtain ⟨front, heq, hfront⟩ := exists_lowerAfter_cons before text first
    rw [heq, List.getLast?_append] at h
    by_cases htext : text = []
    · subst htext
      rcases hfront with ⟨rfl, -⟩ | ⟨-, hfront⟩
      · exact .inr h
      · exact .inl (hfront d (List.mem_of_getLast? h))
    · rw [List.getLast?_eq_some_getLast (lowerAfter_ne_nil htext _), Option.some_or,
        ← List.getLast?_eq_some_getLast] at h
      rw [List.getLast?_cons_of_ne_nil htext]
      exact ih h

end CommandTemplate.Text
