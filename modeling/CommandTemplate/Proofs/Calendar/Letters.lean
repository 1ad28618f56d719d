import CommandTemplate.Calendar.DateTime
import CommandTemplate.Proofs.Text.Quoting
import Mathlib.Data.List.TakeWhile

/-!
Patterns of dates in letters, and what quotes do in them.

`unquoted` is what stands outside of the quotes of a pattern.  A letter there is the only thing that
can be wrong with the pattern, namely if it has no meaning (`letterPattern?_eq_none_iff`), and what
the others stand for is known to those who read directives (`isValidPattern_of_letterPattern?`).  A
pattern is read by runs of one letter, but a run is as good as its first letter, so `unquoted` need
not know of runs (`unquotedFrom_run`).

A text in quotes, with the quotes in it doubled, stands for itself (`letterPattern?_quoted`), and a
pattern without directives is written as it is at any time (`render?_plain`).
-/

namespace CommandTemplate.Calendar

open Text

/-! ### Outside of quotes -/

/-- The letters with a meaning. -/
def patternLetters : List Char :=
  ['y', 'u', 'M', 'L', 'd', 'D', 'E', 'a', 'H', 'h', 'm', 's', 'S', 'z', 'Z', 'X', 'x']

/-- What stands outside of quotes in the rest of a pattern, which begins in quotes or outside of
them.  Two quotes are a character of their own, wherever they stand. -/
def unquotedFrom : Bool → List Char → List Char
  | _, [] => []
  | quoted, '\'' :: '\'' :: s => unquotedFrom quoted s
  | quoted, '\'' :: s => unquotedFrom (!quoted) s
  | quoted, c :: s => if quoted then unquotedFrom true s else c :: unquotedFrom false s

/-- What stands outside of quotes in a pattern. -/
def unquoted (pattern : List Char) : List Char :=
  unquotedFrom false pattern

/-- Is there a letter without a meaning? -/
def HasUnknown (s : List Char) : Prop :=
  ∃ c ∈ s, c.isAlpha = true ∧ c ∉ patternLetters

theorem hasUnknown_cons {c : Char} {s : List Char} :
    HasUnknown (c :: s) ↔ c.isAlpha = true ∧ c ∉ patternLetters ∨ HasUnknown s := by
  simp only [HasUnknown, List.exists_mem_cons_iff]

theorem hasUnknown_append {s t : List Char} :
    HasUnknown (s ++ t) ↔ HasUnknown s ∨ HasUnknown t := by
  induction s with
  | nil => simp [HasUnknown]
  | cons c s ih => rw [List.cons_append, hasUnknown_cons, hasUnknown_cons, ih, or_assoc]

section

variable {c : Char} {s : List Char}

/-- A single quote begins a quoted text or ends it. -/
theorem unquotedFrom_quote (h : ∀ t, s ≠ '\'' :: t) (quoted : Bool) :
    unquotedFrom quoted ('\'' :: s) = unquotedFrom (!quoted) s := by
  rw [unquotedFrom]
  exact h

theorem unquotedFrom_cons (h : c ≠ '\'') (quoted : Bool) (s : List Char) :
    unquotedFrom quoted (c :: s) =
      if quoted then unquotedFrom true s else c :: unquotedFrom false s := by
  rw [unquotedFrom] <;> simp [h]

/-- Outside of quotes a run of one character is all there. -/
theorem unquotedFrom_run (h : c ≠ '\'') (s : List Char) :
    unquotedFrom false s = s.takeWhile (· == c) ++ unquotedFrom false (s.dropWhile (· == c)) := by
  induction s with
  | nil => rfl
  | cons d s ih =>
    by_cases hd : d = c
    · subst hd
      rw [unquotedFrom_cons h, List.takeWhile_cons_of_pos (by simp),
        List.dropWhile_cons_of_pos (by simp), ih]
      simp
    · rw [List.takeWhile_cons_of_neg (by simp [hd]), List.dropWhile_cons_of_neg (by simp [hd])]
      rfl

/-- Of a run of one letter it is enough to look at the first one. -/
theorem hasUnknown_run (h : c ≠ '\'') (s : List Char) :
    HasUnknown (c :: unquotedFrom false s) ↔
      c.isAlpha = true ∧ c ∉ patternLetters ∨
        HasUnknown (unquotedFrom false (s.dropWhile (· == c))) := by
  have hrun : HasUnknown (s.takeWhile (· == c)) → c.isAlpha = true ∧ c ∉ patternLetters := by
    rintro ⟨d, hd, hunknown⟩
    obtain rfl : d = c := by simpa using List.mem_takeWhile_imp hd
    exact hunknown
  rw [hasUnknown_cons, unquotedFrom_run h, hasUnknown_append, ← or_assoc, or_iff_left_of_imp hrun]

end

/-! ### Directives -/

theorem letterDirective?_eq_none_iff {c : Char} {count : Nat} :
    letterDirective? c count = none ↔ c ∉ patternLetters := by
  unfold letterDirective?
  split <;> simp_all [patternLetters]

/-- The directive of a run is a known one, whatever follows it. -/
theorem exists_parse_letterDirective? {c : Char} {count : Nat} {directive : String}
    (h : letterDirective? c count = some directive) :
    ∃ d, d ≠ .invalid ∧
      ∀ rest, Directive.parse (directive.toList ++ rest) = d :: Directive.parse rest := by
  unfold letterDirective? at h
  split at h <;> cases h
  -- only the length of a run of `E` is looked at apart from the letter
  case h_16 => split <;> exact ⟨_, by decide, fun _ => rfl⟩
  all_goals exact ⟨_, by decide, fun _ => rfl⟩

theorem parse_cons {c : Char} (h : c ≠ '%') (rest : List Char) :
    Directive.parse (c :: rest) = .text c :: Directive.parse rest := by
  rw [Directive.parse] <;> simp [h]

/-- A percent sign is doubled, so that every character stands for itself. -/
theorem parse_literalDirective (c : Char) (rest : List Char) :
    Directive.parse (literalDirective c ++ rest) = .text c :: Directive.parse rest := by
  unfold literalDirective
  split
  · next h => subst h; rfl
  · next h => exact parse_cons h rest

/-- A pattern without percent signs stands for its characters. -/
theorem parse_plain {s : List Char} (h : '%' ∉ s) : Directive.parse s = s.map .text := by
  induction s with
  | nil => rfl
  | cons c s ih =>
    rw [List.mem_cons, not_or] at h
    rw [parse_cons (Ne.symm h.1), ih h.2]
    rfl

/-- A directive that is known does not spoil the pattern behind it. -/
theorem isValidPattern_of_parse {front rest : List Char} {d : Directive} (hd : d ≠ .invalid)
    (h : Directive.parse (front ++ rest) = d :: Directive.parse rest) :
    isValidPattern (front ++ rest) = isValidPattern rest := by
  simp [isValidPattern, h, hd]

/-! ### Patterns in letters -/

/-- What is in quotes cannot be wrong. -/
theorem letterPatternFrom?_eq_none_iff {quoted : Bool} {s : List Char} :
    letterPatternFrom? quoted s = none ↔ HasUnknown (unquotedFrom quoted s) := by
  fun_induction letterPatternFrom? quoted s with
  | case1 quoted => simp [HasUnknown, unquotedFrom]
  | case2 quoted s ih =>
    rw [Option.map_eq_none_iff, ih]
    rfl
  | case3 quoted s hs ih => rw [ih, unquotedFrom_quote hs]
  | case4 quoted c s _ hc hplain ih =>
    rw [Option.map_eq_none_iff, ih, unquotedFrom_cons hc]
    cases quoted with
    | true => rfl
    | false =>
      have hletter : c.isAlpha = false := by simpa using hplain
      simp [hasUnknown_cons, hletter]
  | case5 quoted c s _ hc hplain ih =>
    have houtside : quoted = false ∧ c.isAlpha = true := by simpa using hplain
    rw [houtside.1, unquotedFrom_cons hc, if_neg (by simp), hasUnknown_run hc, ← ih,
      and_iff_right houtside.2, ← letterDirective?_eq_none_iff]
    cases letterDirective? c ((s.takeWhile (· == c)).length + 1) <;>
      cases letterPatternFrom? false (s.dropWhile (· == c)) <;> simp

theorem letterPattern?_eq_none_iff {pattern : List Char} :
    letterPattern? pattern = none ↔ HasUnknown (unquoted pattern) :=
  letterPatternFrom?_eq_none_iff

/-- All directives of a pattern in letters are known. -/
theorem isValidPattern_of_letterPatternFrom? {quoted : Bool} {s directives : List Char}
    (h : letterPatternFrom? quoted s = some directives) : isValidPattern directives = true := by
  fun_induction letterPatternFrom? quoted s generalizing directives with
  | case1 quoted =>
    cases h
    rfl
  | case2 quoted s ih =>
    obtain ⟨rest, hrest, rfl⟩ := Option.map_eq_some_iff.1 h
    have hparse : Directive.parse (['\''] ++ rest) = _ := parse_cons (by decide) rest
    exact (isValidPattern_of_parse (by decide) hparse).trans (ih hrest)
  | case3 quoted s hs ih => exact ih h
  | case4 quoted c s _ hc hplain ih =>
    obtain ⟨rest, hrest, rfl⟩ := Option.map_eq_some_iff.1 h
    rw [isValidPattern_of_parse (by simp) (parse_literalDirective c rest), ih hrest]
  | case5 quoted c s _ hc hplain ih =>
    obtain ⟨directive, hdirective, h⟩ := Option.bind_eq_some_iff.1 h
    obtain ⟨rest, hrest, h⟩ := Option.bind_eq_some_iff.1 h
    cases h
    obtain ⟨d, hd, hparse⟩ := exists_parse_letterDirective? hdirective
    rw [isValidPattern_of_parse hd (hparse rest), ih hrest]

theorem isValidPattern_of_letterPattern? {pattern directives : List Char}
    (h : letterPattern? pattern = some directives) : isValidPattern directives = true :=
  isValidPattern_of_letterPatternFrom? h

/-! ### Texts in quotes -/

section

variable {s : List Char}

/-- Doubling a character brings in no other. -/
theorem mem_doubleChars {c d : Char} : d ∈ doubleChars c s ↔ d ∈ s := by
  have hitem (b : Char) : d ∈ (if b = c then [c, c] else [b]) ↔ d = b := by
    split
    · next h => simp [h]
    · exact List.mem_singleton
  simp [doubleChars, List.mem_flatMap, hitem]

/-- Up to the closing quote a text is copied, and the quotes in it are halved. -/
theorem letterPatternFrom?_closing (h : '%' ∉ s) :
    letterPatternFrom? true (doubleChars '\'' s ++ ['\'']) = some s := by
  induction s with
  | nil => simp [doubleChars, letterPatternFrom?]
  | cons c s ih =>
    obtain ⟨hc, hs⟩ := not_or.1 (mt List.mem_cons.2 h)
    -- a quote in the text is one of two, so it does not close
    by_cases hquote : c = '\''
    · have hcons : doubleChars '\'' (c :: s) = '\'' :: '\'' :: doubleChars '\'' s := by
        simp [doubleChars, hquote]
      rw [hcons, List.cons_append, List.cons_append, letterPatternFrom?, ih hs, hquote]
      rfl
    · have hcons : doubleChars '\'' (c :: s) = c :: doubleChars '\'' s := by
        simp [doubleChars, hquote]
      rw [hcons, List.cons_append, letterPatternFrom?, if_pos (by simp), ih hs, literalDirective,
        if_neg (Ne.symm hc)]
      · rfl
      · exact fun _ h => absurd h hquote
      · exact hquote

/-- A text in quotes stands for itself if it is not taken for a pair of quotes at its front. -/
theorem letterPattern?_quoted (hs : s ≠ []) (hpercent : '%' ∉ s) (hquote : s.head? ≠ some '\'') :
    letterPattern? ('\'' :: (doubleChars '\'' s ++ ['\''])) = some s := by
  -- the first quote would be one of two if another followed
  have hfront : ∀ t, doubleChars '\'' s ++ ['\''] ≠ '\'' :: t := by
    cases s with
    | nil => exact absurd rfl hs
    | cons c s =>
      have hc : c ≠ '\'' := by simpa using hquote
      simp [doubleChars, hc]
  rw [letterPattern?, letterPatternFrom?, Bool.not_false, letterPatternFrom?_closing hpercent]
  exact hfront

end

/-! ### Plain patterns -/

/-- A pattern without percent signs is written as it is. -/
theorem render?_plain (m : Moment) (l : Locale) {s : List Char} (h : '%' ∉ s) :
    m.render? l s = some (String.ofList s) := by
  have hparts : (Directive.parse s).mapM (m.directive? l) = some (s.map Char.toString) := by
    rw [parse_plain h, List.mapM_map]
    exact List.mapM_pure
  have hjoin : String.join (s.map Char.toString) = String.ofList s := by
    rw [← String.toList_inj, String.toList_join]
    simp [List.flatMap_map]
  rw [Moment.render?, hparts, ← hjoin]
  rfl

/-- A format without percent signs that has no other meaning is read as a pattern in letters. -/
theorem readFormat_letters {format : String} (hne : format ≠ "")
    (hnamed : namedFormats.lookup format = none) (hpercent : '%' ∉ format.toList) :
    readFormat format =
      match letterPattern? format.toList with
      | none => .error (.invalidFormat format)
      | some directives => .ok directives := by
  simp only [readFormat, if_neg hne, hnamed, if_neg hpercent]
  cases h : letterPattern? format.toList with
  | none => rfl
  | some directives =>
    dsimp only
    rw [if_pos (isValidPattern_of_letterPattern? h)]

/-- A text in quotes, with the quotes in it doubled. -/
def quotedText (s : String) : String :=
  "'" ++ double '\'' s ++ "'"

theorem toList_quotedText (s : String) :
    (quotedText s).toList = '\'' :: (doubleChars '\'' s.toList ++ ['\'']) := by
  simp [quotedText, double]

/-- A text in quotes is read as a pattern that is this text. -/
theorem readFormat_quotedText {s : String} (hs : s ≠ "") (hpercent : '%' ∉ s.toList)
    (hquote : s.toList.head? ≠ some '\'') : readFormat (quotedText s) = .ok s.toList := by
  have hchars := toList_quotedText s
  have hne : quotedText s ≠ "" := by
    intro h
    rw [h] at hchars
    cases hchars
  -- no format with a name begins with a quote
  have hnamed : namedFormats.lookup (quotedText s) = none := by
    have hfirst : ∀ entry ∈ namedFormats, entry.1.toList.head? ≠ some '\'' := by decide
    refine List.lookup_eq_none_iff.2 fun entry hentry => bne_iff_ne.2 fun heq => ?_
    apply hfirst entry hentry
    rw [← heq, hchars]
    rfl
  have hplain : '%' ∉ (quotedText s).toList := by
    simpa [hchars, mem_doubleChars] using hpercent
  rw [readFormat_letters hne hnamed hplain, hchars,
    letterPattern?_quoted (mt String.toList_eq_nil_iff.1 hs) hpercent hquote]

/-- A text in quotes is written as it is at any time that can be written. -/
theorem formatDateTime_quotedText {almanac : Almanac} {now : Int} {s zone tag timestamp : String}
    (hs : s ≠ "") (hpercent : '%' ∉ s.toList) (hquote : s.toList.head? ≠ some '\'')
    {clock : Clock} (hzone : readZone almanac zone = .ok clock) {instant : Int × Nat}
    (htimestamp : readTimestamp now timestamp = .ok instant) :
    formatDateTime almanac now (quotedText s) zone tag timestamp = s := by
  obtain ⟨second, nanosecond⟩ := instant
  have htry : tryFormatDateTime almanac now (quotedText s) zone tag timestamp = .ok s := by
    rw [tryFormatDateTime, readFormat_quotedText hs hpercent hquote, htimestamp, hzone]
    simp only [bind, Except.bind, render?_plain _ _ hpercent, String.ofList_toList]
    rfl
  rw [formatDateTime, htry]

/-! ### Main statement -/

/-- A pattern in letters has directives unless a letter outside of its quotes has no meaning, and
these directives are all known.  A text in quotes stands for itself, in every zone and language and
at every time, whatever the clocks and the locales are. -/
theorem letterPattern_laws :
    (∀ pattern, letterPattern? pattern = none ↔
      ∃ c ∈ unquoted pattern, c.isAlpha = true ∧ c ∉ patternLetters) ∧
    (∀ pattern directives, letterPattern? pattern = some directives →
      isValidPattern directives = true) ∧
    ∀ (almanac : Almanac) (now : Int) (s zone tag timestamp : String), s ≠ "" →
      '%' ∉ s.toList → s.toList.head? ≠ some '\'' →
        (∃ clock, readZone almanac zone = .ok clock) →
          (∃ instant, readTimestamp now timestamp = .ok instant) →
            formatDateTime almanac now ("'" ++ double '\'' s ++ "'") zone tag timestamp = s := by
  refine ⟨fun _ => letterPattern?_eq_none_iff, fun _ _ => isValidPattern_of_letterPattern?, ?_⟩
  rintro almanac now s zone tag timestamp hs hpercent hquote ⟨clock, hzone⟩ ⟨instant, htimestamp⟩
  exact formatDateTime_quotedText hs hpercent hquote hzone htimestamp

-- the characters of the table are listed one by one when its text is compared with a list
set_option maxRecDepth 40000 in
/-- A zone in the table has the clock that the almanac gives. -/
theorem readZone_tokyo (almanac : Almanac) :
    readZone almanac "Asia/Tokyo" = .ok (almanac.clock "Asia/Tokyo") := by
  have htable (chars : List Char) : tableWords (String.ofList chars) =
      (chars.splitOnP fun c => c = ' ' || c = '\n').filter (· ≠ []) := by
    rw [tableWords, String.toList_ofList]
  have hmem : "Asia/Tokyo" ∈ zoneNames := by
    rw [zoneNames, show tableWords _ = _ from htable _]
    decide +kernel
  have htrim : trim "Asia/Tokyo" = "Asia/Tokyo" := by decide +kernel
  rw [readZone, if_neg (by decide), findZone?, htrim]
  simp only [if_pos hmem]

/-- An almanac with the time of Japan. -/
def japanese : Almanac where
  clock _ := .fixed "JST" 32400
  locale? name := Locale.named.lookup name

/-- The text has a quote and letters without a meaning. -/
theorem letterPattern_laws_clock :
    "o'clock" ≠ "" ∧ '%' ∉ "o'clock".toList ∧ "o'clock".toList.head? ≠ some '\'' ∧
      (∃ clock, readZone japanese "Asia/Tokyo" = .ok clock) ∧
      (∃ instant, readTimestamp 0 "1609556645000" = .ok instant) ∧
      formatDateTime japanese 0 "'o''clock'" "Asia/Tokyo" "de" "1609556645000" = "o'clock" ∧
      letterPattern? "HH o'clock'".toList = none := by
  have hzone := readZone_tokyo japanese
  have htimestamp : ∃ instant, readTimestamp 0 "1609556645000" = .ok instant := ⟨_, rfl⟩
  obtain ⟨hnone, -, hquoted⟩ := letterPattern_laws
  refine ⟨by decide, by decide, by decide, ⟨_, hzone⟩, htimestamp, ?_, ?_⟩
  · exact hquoted japanese 0 "o'clock" _ _ _ (by decide) (by decide) (by decide) ⟨_, hzone⟩
      htimestamp
  · exact (hnone _).2 ⟨'o', by decide, by decide, by decide⟩

end CommandTemplate.Calendar
