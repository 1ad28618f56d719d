import CommandTemplate.Proofs.Number.Integer
import CommandTemplate.Proofs.Regex.Captures
import CommandTemplate.Proofs.Regex.Splicing

/-!
References to groups in a replacement.

A replacement is read twice: `braceNumbers` puts braces around its numbers, and `expand` puts the
texts of groups in the place of its references.  `fill` reads it once, and does what both are meant
to do (`expand_braceNumbers`): all digits behind a dollar sign are the number of a group, whatever
follows them, and all letters, digits and underscores behind it are a name.  The two differ only
where the replacement has braces of its own.
-/

namespace CommandTemplate.Regex

/-- What a replacement refers to. -/
inductive Reference where
  | number (n : Nat)
  | name (name : String)
  deriving Repr, DecidableEq

/-- May the character start a name in a replacement? -/
def isReferenceStart (c : Char) : Bool :=
  c.isAlpha || c = '_'

/-- A replacement with the texts of its references in their places. -/
def fill (image : Reference → List Char) : List Char → List Char
  | [] => []
  | '$' :: '$' :: s => '$' :: fill image s
  | '$' :: c :: s =>
    if c.isDigit then
      image (.number (Number.ofDigits (c :: s.takeWhile Char.isDigit))) ++
        fill image (s.dropWhile Char.isDigit)
    else if isReferenceStart c then
      image (.name (String.ofList (c :: s.takeWhile isReferenceChar))) ++
        fill image (s.dropWhile isReferenceChar)
    else '$' :: fill image (c :: s)
  | c :: s => c :: fill image s
termination_by s => s.length
decreasing_by
  all_goals simp only [List.length_cons]
  · omega
  · have := (List.dropWhile_suffix (l := s) Char.isDigit).length_le
    omega
  · have := (List.dropWhile_suffix (l := s) isReferenceChar).length_le
    omega
  · omega
  · omega

/-- Has the replacement no opening brace behind a dollar sign, but for those behind two of them? -/
def isUnbraced : List Char → Bool
  | [] => true
  | '$' :: '$' :: s => isUnbraced s
  | '$' :: '{' :: _ => false
  | _ :: s => isUnbraced s

section

variable {c : Char} {s : List Char} {p : Char → Bool}

theorem isUnbraced_cons (h : c ≠ '$') (s : List Char) : isUnbraced (c :: s) = isUnbraced s := by
  rw [isUnbraced]
  all_goals simp [h]

/-- What may follow a single dollar sign. -/
theorem isUnbraced_dollar (h : c ≠ '$') (s : List Char) :
    isUnbraced ('$' :: c :: s) = true ↔ c ≠ '{' ∧ isUnbraced s = true := by
  by_cases hbrace : c = '{'
  · subst hbrace
    simp [isUnbraced]
  · rw [isUnbraced, isUnbraced_cons h]
    all_goals simp [h, hbrace]

/-- Taking a run off the front takes no brace away. -/
theorem isUnbraced_dropWhile (hp : p '$' = false) (s : List Char) :
    isUnbraced (s.dropWhile p) = isUnbraced s := by
  induction s with
  | nil => rfl
  | cons c s ih =>
    rw [List.dropWhile_cons]
    split
    · next hc =>
      rw [ih, isUnbraced_cons]
      rintro rfl
      cases hp.symm.trans hc
    · rfl

theorem braceNumbers_cons (h : c ≠ '$') (s : List Char) :
    braceNumbers (c :: s) = c :: braceNumbers s := by
  rw [braceNumbers]
  all_goals simp [h]

/-- A text begins as before when its numbers are in braces. -/
theorem head?_braceNumbers (s : List Char) : (braceNumbers s).head? = s.head? := by
  fun_cases braceNumbers s <;> simp [*]

/-- A run of characters other than dollar signs stays as it is. -/
theorem braceNumbers_run (hp : p '$' = false) (s : List Char) :
    (braceNumbers s).takeWhile p = s.takeWhile p ∧
      (braceNumbers s).dropWhile p = braceNumbers (s.dropWhile p) := by
  induction s with
  | nil => simp [braceNumbers]
  | cons c s ih =>
    by_cases hc : p c = true
    · have hdollar : c ≠ '$' := by
        rintro rfl
        cases hp.symm.trans hc
      rw [braceNumbers_cons hdollar, List.takeWhile_cons_of_pos hc, List.takeWhile_cons_of_pos hc,
        List.dropWhile_cons_of_pos hc, List.dropWhile_cons_of_pos hc, ih.1, ih.2]
      exact ⟨rfl, rfl⟩
    · have hhead := head?_braceNumbers (c :: s)
      cases hbraced : braceNumbers (c :: s) with
      | nil => rw [hbraced] at hhead; cases hhead
      | cons d t =>
        rw [hbraced] at hhead
        cases hhead
        rw [List.takeWhile_cons_of_neg hc, List.takeWhile_cons_of_neg hc,
          List.dropWhile_cons_of_neg hc, List.dropWhile_cons_of_neg hc, hbraced]
        exact ⟨rfl, rfl⟩

/-- The characters of references are those at their start, and digits. -/
theorem isReferenceChar_eq (c : Char) :
    isReferenceChar c = (isReferenceStart c || c.isDigit) :=
  Bool.or_right_comm c.isAlpha c.isDigit (c = '_')

theorem not_isDigit_of_isReferenceStart (h : isReferenceStart c = true) : c.isDigit = false := by
  rw [← Bool.not_eq_true]
  intro hdigit
  rw [isReferenceStart, Bool.or_eq_true, decide_eq_true_eq, Text.isAlpha_iff] at h
  rcases h with (hupper | hlower) | rfl
  · exact Text.not_isUpper_of_isDigit hdigit hupper
  · exact Text.not_isLower_of_isDigit hdigit hlower
  · cases hdigit

/-! ### The second reading -/

variable {refer : List Char → List Char}

theorem expand_cons (h : c ≠ '$') (s : List Char) :
    expand refer (c :: s) = c :: expand refer s := by
  rw [expand]
  all_goals simp [h]

/-- A reference in braces ends at the first closing one. -/
theorem expand_braced {name : List Char} (h : ∀ c ∈ name, c ≠ '}') (s : List Char) :
    expand refer ('$' :: '{' :: (name ++ '}' :: s)) = refer name ++ expand refer s := by
  have hname : ∀ c ∈ name, decide (c ≠ '}') = true := by simpa using h
  have hdrop : (name ++ '}' :: s).dropWhile (· ≠ '}') = '}' :: s := by
    rw [List.dropWhile_append_of_pos hname, List.dropWhile_cons_of_neg (by decide)]
  have htake : (name ++ '}' :: s).takeWhile (· ≠ '}') = name := by
    rw [List.takeWhile_append_of_pos hname, List.takeWhile_cons_of_neg (by decide),
      List.append_nil]
  rw [expand]
  split
  · next hnil => cases hdrop.symm.trans hnil
  · next hcons =>
    cases hdrop.symm.trans hcons
    rw [htake]

/-- A name without braces ends where other characters follow. -/
theorem expand_name (h : isReferenceStart c = true) (s : List Char) :
    expand refer ('$' :: c :: s) =
      refer (c :: s.takeWhile isReferenceChar) ++ expand refer (s.dropWhile isReferenceChar) := by
  rw [expand, isReferenceChar_eq, h, Bool.true_or, if_pos rfl]
  · rintro rfl
    cases h
  · rintro rfl
    cases h

/-- A dollar sign that begins no reference stays. -/
theorem expand_dollar (h : ∀ c ∈ s.head?, c ≠ '$' ∧ c ≠ '{' ∧ isReferenceChar c = false) :
    expand refer ('$' :: s) = '$' :: expand refer s := by
  cases s with
  | nil => simp [expand]
  | cons c s =>
    obtain ⟨hdollar, hbrace, hc⟩ := h c rfl
    rw [expand, hc]
    · rfl
    · exact hdollar
    · exact hbrace

/-! ### Both readings -/

/-- The texts of references as they are written are those of what they refer to. -/
structure Resolves (refer : List Char → List Char) (image : Reference → List Char) : Prop where
  number : ∀ {digits : List Char}, digits ≠ [] → (∀ c ∈ digits, c.isDigit = true) →
    refer digits = image (.number (Number.ofDigits digits))
  name : ∀ {c : Char}, isReferenceStart c = true → ∀ name,
    refer (c :: name) = image (.name (String.ofList (c :: name)))

/-- The two readings do what one does. -/
theorem expand_braceNumbers {image : Reference → List Char} (h : Resolves refer image)
    (hs : isUnbraced s = true) : expand refer (braceNumbers s) = fill image s := by
  fun_induction fill image s with
  | case1 => simp [braceNumbers, expand]
  | case2 s ih =>
    rw [braceNumbers, expand, ih hs]
  | case3 c s hdollar hdigit ih =>
    obtain ⟨-, hs⟩ := (isUnbraced_dollar hdollar s).1 hs
    have hdigits : ∀ d ∈ c :: s.takeWhile Char.isDigit, d.isDigit = true :=
      List.forall_mem_cons.2 ⟨hdigit, List.all_eq_true.1 List.all_takeWhile⟩
    -- the digits in braces are read up to the brace that was put behind them
    have hclosing : ∀ d ∈ c :: s.takeWhile Char.isDigit, d ≠ '}' := by
      rintro _ hd rfl
      cases hdigits _ hd
    have hbraced : braceNumbers ('$' :: c :: s) = '$' :: '{' :: ((c :: s.takeWhile Char.isDigit) ++
        '}' :: braceNumbers (s.dropWhile Char.isDigit)) := by
      rw [braceNumbers, if_pos hdigit]
      · rfl
      · exact hdollar
    rw [hbraced, expand_braced hclosing, h.number (List.cons_ne_nil _ _) hdigits,
      ih ((isUnbraced_dropWhile (by decide) s).trans hs)]
  | case4 c s hdollar hdigit hstart ih =>
    obtain ⟨-, hs⟩ := (isUnbraced_dollar hdollar s).1 hs
    -- a name ends in front of the next dollar sign, so nothing in it is rewritten
    obtain ⟨htake, hdrop⟩ := braceNumbers_run (p := isReferenceChar) (by decide) s
    rw [braceNumbers, if_neg hdigit, braceNumbers_cons hdollar, expand_name hstart, htake, hdrop,
      h.name hstart, ih ((isUnbraced_dropWhile (by decide) s).trans hs)]
    exact hdollar
  | case5 c s hdollar hdigit hstart ih =>
    obtain ⟨hbrace, hs⟩ := (isUnbraced_dollar hdollar s).1 hs
    have hc : isReferenceChar c = false := by simp [isReferenceChar_eq, hdigit, hstart]
    rw [braceNumbers, if_neg hdigit, expand_dollar, ih ((isUnbraced_cons hdollar s).trans hs)]
    · -- what follows the dollar sign is not rewritten into something that it begins
      rw [head?_braceNumbers]
      intro d hd
      cases hd
      exact ⟨hdollar, hbrace, hc⟩
    · exact hdollar
  | case6 c s _ hlast ih =>
    by_cases hdollar : c = '$'
    · subst hdollar
      cases s with
      | nil => simp [braceNumbers, expand, fill]
      | cons c s => exact (hlast c s rfl rfl).elim
    · rw [isUnbraced_cons hdollar] at hs
      rw [braceNumbers_cons hdollar, expand_cons hdollar, ih hs]

end

/-! ### References in a match -/

/-- The text of what is referred to in a match, which is empty if there is no such group or it did
not match. -/
def referenceText (r : Regex) (m : Segment) : Reference → List Char
  | .number n => m.groupText n
  | .name name => ((r.names.lookup name).map m.groupText).getD []

/-- A group that the pattern does not have is empty. -/
theorem Segment.groupText_eq_nil {m : Segment} {n : Nat} (h : m.groups.length < n) :
    m.groupText n = [] := by
  cases n with
  | zero => cases h
  | succ n => rw [groupText, List.getElem?_eq_none (Nat.le_of_lt_succ h)]; rfl

/-- No group has a name of digits. -/
theorem lookup_digits {source : String} {r : Regex} (h : compile source = .ok r)
    {digits : List Char} (hdigits : ∀ c ∈ digits, c.isDigit = true) :
    r.names.lookup (String.ofList digits) = none := by
  rw [List.lookup_eq_none_iff]
  rintro ⟨name, index⟩ hmem
  obtain ⟨first, rest, hname, hstart⟩ := (captured_of_compile h).2 name index hmem
  rw [bne_iff_ne]
  -- a name starts with no digit, so these digits are none
  rintro rfl
  rw [String.toList_ofList] at hname
  rw [isNameStart_of_isDigit (hdigits first (hname ▸ List.mem_cons_self))] at hstart
  cases hstart

/-- In a match of a pattern, the digits of a reference are the number of a group, and a name is one
of a group. -/
theorem resolves_refer {source : String} {r : Regex} (h : compile source = .ok r) {m : Segment}
    (hm : m.groups.length = r.groups) : Resolves (r.refer m) (r.referenceText m) where
  number := by
    intro digits hne hdigits
    rw [refer, groupNumber?, Number.readUnsigned?, Number.readNat?_digits hne hdigits]
    by_cases hlimit : Number.ofDigits digits < 0x10000000000000000
    · rw [Option.filter_some, if_pos (decide_eq_true hlimit)]
      rfl
    · -- no pattern has so many groups
      have hgroups : m.groups.length < Number.ofDigits digits := by
        have := (captured_of_compile h).1
        have hmax : maxGroups = 0xffffffff := rfl
        omega
      rw [Option.filter_some, if_neg (by simpa using hlimit), lookup_digits h hdigits,
        referenceText, Segment.groupText_eq_nil hgroups]
      rfl
  name := by
    intro c hc name
    have hnumber : Number.readUnsigned? (c :: name) = none := by
      refine Number.readUnsigned?_eq_none ?_ (not_isDigit_of_isReferenceStart hc)
      rintro rfl
      cases hc
    rw [refer, groupNumber?, hnumber]
    rfl

/-- A replacement that is read twice puts in what it does when it is read once. -/
theorem replaceExpanding_eq {source : String} {r : Regex} (h : compile source = .ok r)
    {replacement : String} (hreplacement : isUnbraced replacement.toList = true) (extent : Extent)
    (text : String) :
    r.replaceExpanding extent replacement text =
      r.replaceWith extent (fun m => fill (r.referenceText m) replacement.toList) text :=
  replaceWith_congr fun _ hm =>
    expand_braceNumbers (resolves_refer h (length_groups hm)) hreplacement

end CommandTemplate.Regex
