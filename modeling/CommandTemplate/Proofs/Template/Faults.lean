import CommandTemplate.Proofs.Json.Faults
import CommandTemplate.Proofs.Template.Completeness
import CommandTemplate.Proofs.Template.Identifier
import CommandTemplate.Proofs.Template.Soundness

/-!
What can be wrong with a template, and where.

A fault is found at a place of the text.  `ParseError.LiesIn` says what stands there, or in front of
it, for each of the faults; `Template.liesIn_of_parse` says that this is so of every text that is no
template.  The readers are taken apart like for their soundness: those of arguments report
faults that lie in the text if `readItems` does from all places further on (`FaultsBelow`).
-/

namespace CommandTemplate

open Text (PrecededBy Scanner)
open Text.Scanner (After Past StandsIn)

/-! ### Faults and places -/

/-- Does a text have at a place what a fault says of it? -/
inductive ParseFault.LiesAt (text : List Char) (place : Nat) : ParseFault → Prop
  | separator {c : Char} : c = ',' ∨ c = ')' → text[place]? ≠ some c →
    LiesAt text place (.expected c)
  | bracket {c : Char} : c = ']' → place = text.length → LiesAt text place (.expected c)
  | identifier : (∀ c ∈ text[place]?, Template.isIdentifierChar c = false) →
    LiesAt text place .expectedIdentifier
  | index {digits : List Char} : digits ≠ [] → (∀ c ∈ digits, c.isDigit = true) →
    digits <+: text.drop place → LiesAt text place (.invalidIndex (String.ofList digits))
  | function {name : List Char} : name ++ ['('] <+: text.drop place →
    LiesAt text place (.unknownFunction (String.ofList name))
  | nesting : PrecededBy text '$' place → LiesAt text place .tooDeep
  | duplicate : PrecededBy text ',' place → LiesAt text place .duplicateCase
  | noCase : (∀ c ∈ text[place]?, c = ')') → LiesAt text place .noCase
  | pattern {fault : Regex.Error} : PrecededBy text '=' place →
    LiesAt text place (.invalidPattern fault)

/-- Does a fault lie at a place of the text, or at its end? -/
structure ParseError.LiesIn (text : List Char) (e : ParseError) : Prop where
  offset_le : e.offset ≤ text.length
  fault : e.fault.LiesAt text e.offset

/-- Faults of paths are faults of the text in which the paths stand up to its end. -/
theorem Json.Path.FaultIn.liesIn {text : List Char} {s : Scanner} {e : ParseError}
    (h : FaultIn text s e) (hs : StandsIn text [] s) : e.LiesIn text := by
  cases h with
  | pattern hplace =>
    refine ⟨?_, .pattern hplace⟩
    obtain ⟨p, rfl, hp⟩ := hplace
    exact (List.getElem?_eq_some_iff.1 hp).1
  | bracket => exact ⟨Nat.le_of_eq hs.length_eq, .bracket rfl hs.length_eq⟩

/-- Are there endings for as many arguments as must be there? -/
def Shape.HasRoom : Shape → Prop
  | .listed endings least | .identifierFirst endings least => least ≤ endings.length
  | .variadic | .cases => True

/-- The shapes of all functions have as many endings as they ask for arguments. -/
theorem Builtin.hasRoom_shape (builtin : Builtin) : builtin.shape.HasRoom := by
  cases builtin <;> simp [Builtin.shape, Shape.HasRoom]

namespace Template

/-! ### Single steps -/

section

variable {text : List Char} {s : Scanner} {e : ParseError}

/-- A separator that is not accepted is missing where the scanner stands. -/
theorem liesIn_of_accept {c : Char} (hc : c = ',' ∨ c = ')') (hs : StandsIn text [] s)
    (h : s.accept c = none) : ParseError.LiesIn text ⟨.expected c, s.position⟩ := by
  refine ⟨hs.position_le, .separator hc ?_⟩
  rw [hs.getElem?_eq_peek?]
  exact Scanner.peek?_ne_of_accept h

/-- A separator that is expected and not found is missing where the scanner stands. -/
theorem liesIn_of_expect {c : Char} (hc : c = ',' ∨ c = ')') (hs : StandsIn text [] s)
    (h : expect c s = .error e) : e.LiesIn text := by
  unfold expect at h
  split at h
  · cases h
  · next hnone =>
    cases h
    exact liesIn_of_accept hc hs hnone

/-- A character that comes next is not missed. -/
theorem exists_of_expect {α : Type} {c : Char} {f : Past s → Except ParseError α}
    (hpeek : s.peek? = some c) (h : (expect c s >>= f) = .error e) : ∃ t, f t = .error e := by
  obtain ⟨t, ht⟩ := Scanner.exists_accept hpeek
  rw [expect, ht] at h
  exact ⟨t, h⟩

/-- What was expected stands in front of the scanner behind it. -/
theorem precededBy_of_expect {c : Char} {t : Past s} (hs : StandsIn text [] s)
    (h : expect c s = .ok t) : PrecededBy text c t.1.position := by
  obtain ⟨rest, p, rfl, ht⟩ := of_expect h
  rw [ht]
  exact hs.precededBy

/-- An identifier is missing where none begins, and digits that number no argument stand where they
are read. -/
theorem liesIn_of_identifierItem {run : List Char} {start : Nat} (hstart : start ≤ text.length)
    (hrun : run <+: text.drop start)
    (hempty : run = [] → ∀ c ∈ text[start]?, isIdentifierChar c = false)
    (h : identifierItem run start = .error e) : e.LiesIn text := by
  unfold identifierItem at h
  split at h
  · next hnil =>
    cases h
    exact ⟨hstart, .identifier (hempty hnil)⟩
  split at h
  · cases h
  next digits toEnd hdigits =>
  obtain ⟨hne, hall, rfl⟩ := of_argumentDigits? hdigits
  have hfront : digits <+: text.drop start := (List.prefix_append _ _).trans hrun
  split at h
  · cases h
    exact ⟨hstart, .index hne hall hfront⟩
  · next hzero =>
    cases h
    obtain ⟨c, rest, rfl⟩ := List.exists_cons_of_ne_nil hne
    -- digits that write zero start with it
    obtain rfl := Number.eq_zero_of_readUnsigned? (hall c List.mem_cons_self) hzero
    have hindex : ParseFault.LiesAt text start (.invalidIndex (String.ofList ['0'])) :=
      .index nofun (by simp) ((List.prefix_append ['0'] rest).trans hfront)
    exact ⟨hstart, hindex⟩
  · cases h

/-- An identifier whose letters were read before the scanner `s`. -/
theorem liesIn_of_run (name : List Char) {t : Scanner} (ht : StandsIn text [] t)
    (hrest : t.rest = name ++ s.rest)
    (h : identifierItem (name ++ (s.run isIdentifierChar).1) t.position = .error e) :
    e.LiesIn text := by
  have hrun := s.rest_eq_run_append isIdentifierChar
  refine liesIn_of_identifierItem ht.position_le ?_ (fun hnil c hc => ?_) h
  · rw [ht.drop_eq, List.append_nil, hrest, hrun, ← List.append_assoc]
    exact List.prefix_append _ _
  · obtain ⟨rfl, hnil'⟩ := List.append_eq_nil_iff.1 hnil
    rw [hnil', List.nil_append] at hrun
    rw [ht.getElem?_eq_peek?, Scanner.peek?, hrest, List.nil_append, hrun] at hc
    exact Scanner.of_mem_peek?_run hc

/-- An identifier reports a missing name, a bad number or a missing parenthesis. -/
theorem liesIn_of_readIdentifier {name : List Char} {t : Scanner} (ht : StandsIn text [] t)
    (hname : t.run Char.isAlpha = (name, s))
    (h : readIdentifier name t.position s = .error e) : e.LiesIn text := by
  have hrest := t.rest_eq_run_append Char.isAlpha
  have hs := ht.of_leadsTo (t.leadsTo_run Char.isAlpha)
  rw [hname] at hrest hs
  unfold readIdentifier at h
  split at h
  · next v hv =>
    have hv := hs.of_leadsTo v.2.1
    rcases bind_eq_error.1 h with h | ⟨item, -, h⟩
    · exact liesIn_of_run [] hv rfl h
    exact liesIn_of_expect (.inr rfl) (hv.of_leadsTo (v.1.leadsTo_run isIdentifierChar))
      (error_of_bind h fun _ => ⟨_, rfl⟩)
  · exact liesIn_of_run name ht hrest (error_of_bind h fun _ => ⟨_, rfl⟩)

end

/-- A text ends at a special or at a character of its ending, or with the whole text. -/
theorem stops_of_textRun {ending : Ending} {s : Scanner} {c : Char}
    (hc : c ∈ (textRun ending s).2.peek?) : c = '$' ∨ ending.stops c = true := by
  obtain ⟨rest, p⟩ := s
  simp only [textRun] at hc
  fun_induction readText ending rest p with
  | case1 | case2 => cases hc
  | case3 c' rest p run t hrun ih =>
    rw [hrun] at ih
    exact ih hc
  | case4 c' rest p _ _ hstop =>
    cases hc
    exact hstop
  | case5 c' rest p _ _ _ run t hrun ih =>
    rw [hrun] at ih
    exact ih hc

/-- A template ends at a character of its ending, or with the whole text. -/
theorem stops_of_reads {d : Nat} {ending : Ending} {s u : Scanner} {items : Template} {c : Char} :
    ReadsItems d ending s items u → c ∈ u.peek? → ending.stops c = true
  | .text hrun hend, hc => by
    obtain ⟨-, rfl⟩ := Prod.mk.inj hrun
    exact (stops_of_textRun hc).resolve_left fun h => hend (h ▸ hc)
  | .special _ _ hitems, hc => stops_of_reads hitems hc

/-! ### Arguments and calls -/

/-- Templates with fewer than `n` characters from their beginning on report faults of the text. -/
def FaultsBelow (text : List Char) (n : Nat) : Prop :=
  ∀ {d : Nat} {ending : Ending} {s : Scanner} {e : ParseError}, s.rest.length < n →
    StandsIn text [] s → readItems d ending s = .error e → e.LiesIn text

section

variable {text : List Char} {n d : Nat} {s : Scanner} {e : ParseError} (ih : FaultsBelow text n)

include ih

/-- A first argument reports the faults of a template or of an identifier. -/
theorem liesIn_of_readFirst (hn : s.rest.length < n) (hs : StandsIn text [] s)
    (h : readFirst d s = .error e) : e.LiesIn text := by
  unfold readFirst at h
  split at h
  · exact ih hn hs h
  · exact liesIn_of_run [] hs rfl (error_of_bind h fun _ => ⟨_, rfl⟩)

/-- Listed arguments report those of each argument, and a missing comma or parenthesis between them.
-/
theorem liesIn_of_readListed {least : Nat} {endings : List Ending}
    (hroom : least ≤ endings.length) (hn : s.rest.length < n) (hs : StandsIn text [] s)
    (h : readListed d endings least s = .error e) : e.LiesIn text := by
  induction endings generalizing least s with
  | nil =>
    unfold readListed at h
    exact liesIn_of_expect (.inr rfl) hs (error_of_bind h fun _ => ⟨_, rfl⟩)
  | cons ending endings hrec =>
    unfold readListed at h
    rcases bind_eq_error.1 h with h | ⟨⟨argument, t⟩, -, h⟩
    · exact ih hn hs h
    have ht := hs.of_leadsTo t.2
    have htl := t.2.length_le
    dsimp only at h
    split at h
    · next v hv =>
      have hvl := v.2.2
      exact hrec (Nat.sub_le_of_le_add hroom) (by omega) (ht.of_leadsTo v.2.1)
        (error_of_bind h fun _ => ⟨_, rfl⟩)
    · next hnone =>
      split at h
      · next hleast =>
        cases h
        -- as another argument must follow, there is an ending for it
        have hmore : endings ≠ [] := by
          rintro rfl
          exact absurd (Nat.lt_of_lt_of_le hleast hroom) (Nat.lt_irrefl 1)
        rw [if_neg hmore] at hnone
        exact liesIn_of_accept (.inl rfl) ht hnone
      · exact liesIn_of_expect (.inr rfl) ht (error_of_bind h fun _ => ⟨_, rfl⟩)

/-- Any number of arguments reports those of each of them, and a missing parenthesis. -/
theorem liesIn_of_readMany {s : Scanner} (hn : s.rest.length < n) (hs : StandsIn text [] s)
    (h : readMany d s = .error e) : e.LiesIn text := by
  unfold readMany at h
  rcases bind_eq_error.1 h with h | ⟨⟨argument, t⟩, -, h⟩
  · exact ih hn hs h
  have ht := hs.of_leadsTo t.2
  have htl := t.2.length_le
  dsimp only at h
  split at h
  · next v hv =>
    have hvl := v.2.2
    exact liesIn_of_readMany (by omega) (ht.of_leadsTo v.2.1) (error_of_bind h fun _ => ⟨_, rfl⟩)
  · exact liesIn_of_expect (.inr rfl) ht (error_of_bind h fun _ => ⟨_, rfl⟩)
termination_by s.rest.length

/-- Cases report those of keys and outputs, a key that was seen and a switch without cases. -/
theorem liesIn_of_readCases {seen : List Template} {s : Scanner} (hn : s.rest.length < n)
    (hs : StandsIn text [] s) (hcomma : PrecededBy text ',' s.position)
    (h : readCases d seen s = .error e) : e.LiesIn text := by
  unfold readCases at h
  rcases bind_eq_error.1 h with h | ⟨⟨key, t⟩, hkey, h⟩
  · exact ih hn hs h
  have ht := hs.of_leadsTo t.2
  have htl := t.2.length_le
  dsimp only at h
  split at h
  · next hnone =>
    split at h
    · cases h
      rw [Option.orElse_eq_orElse, Option.orElse_eq_or, Option.or_eq_none_iff] at hnone
      refine ⟨ht.position_le, .noCase fun c hc => ?_⟩
      rw [ht.getElem?_eq_peek?] at hc
      -- a key that ends at no separator ends at the parenthesis, if not with the text
      have hstop := stops_of_reads (reads_of_readItems hkey) hc
      simp only [Ending.stops, Bool.or_eq_true, decide_eq_true_eq] at hstop
      rcases hstop with (rfl | rfl) | rfl
      · exact absurd hc (Scanner.peek?_ne_of_accept hnone.1)
      · exact absurd hc (Scanner.peek?_ne_of_accept hnone.2)
      · rfl
    · exact liesIn_of_expect (.inr rfl) ht (error_of_bind h fun _ => ⟨_, rfl⟩)
  · next v hv =>
    have hvl := v.2.2
    have hv := ht.of_leadsTo v.2.1
    rcases bind_eq_error.1 h with h | ⟨⟨output, w⟩, -, h⟩
    · exact ih (by omega) hv h
    have hw := hv.of_leadsTo w.2
    have hwl := w.2.length_le
    dsimp only at h
    split at h
    · -- each case begins behind a comma, the first one behind that of the value
      cases h
      exact ⟨hs.position_le, .duplicate hcomma⟩
    split at h
    · next x hx =>
      have hxl := x.2.2
      exact liesIn_of_readCases (by omega) (hw.of_leadsTo x.2.1) (hw.precededBy_of_accept hx)
        (error_of_bind h fun _ => ⟨_, rfl⟩)
    · exact liesIn_of_expect (.inr rfl) hw (error_of_bind h fun _ => ⟨_, rfl⟩)
termination_by s.rest.length

/-- Arguments report the faults of their shape. -/
theorem liesIn_of_readArguments {shape : Shape} (hroom : shape.HasRoom) (hn : s.rest.length < n)
    (hs : StandsIn text [] s) (h : readArguments d shape s = .error e) : e.LiesIn text := by
  unfold readArguments at h
  split at h
  · -- a switch has a value in front of its cases
    unfold readSwitch at h
    rcases bind_eq_error.1 h with h | ⟨⟨value, t⟩, -, h⟩
    · exact liesIn_of_readFirst ih hn hs h
    have ht := hs.of_leadsTo t.2
    have htl := t.2.length_le
    rcases bind_eq_error.1 h with h | ⟨v, hv, h⟩
    · exact liesIn_of_expect (.inl rfl) ht h
    have hvl := v.2.2
    exact liesIn_of_readCases ih (by omega) (ht.of_leadsTo v.2.1) (precededBy_of_expect ht hv)
      (error_of_bind h fun _ => ⟨_, rfl⟩)
  · exact liesIn_of_readMany ih hn hs h
  · rcases bind_eq_error.1 h with h | ⟨⟨first, t⟩, -, h⟩
    · exact liesIn_of_readFirst ih hn hs h
    have ht := hs.of_leadsTo t.2
    have htl := t.2.length_le
    rcases bind_eq_error.1 h with h | ⟨v, -, h⟩
    · exact liesIn_of_expect (.inl rfl) ht h
    have hvl := v.2.2
    exact liesIn_of_readListed ih hroom (by omega) (ht.of_leadsTo v.2.1)
      (error_of_bind h fun _ => ⟨_, rfl⟩)
  · split at h
    · cases h
    · exact liesIn_of_readListed ih hroom hn hs h

/-- A look-up reports the faults of its default. -/
theorem liesIn_of_readDefault (hn : s.rest.length < n) (hs : StandsIn text [] s)
    (h : readDefault d s = .error e) : e.LiesIn text := by
  unfold readDefault at h
  split at h
  · next v hv =>
    have hvl := v.2.2
    have hv := hs.of_leadsTo v.2.1
    rcases bind_eq_error.1 h with h | ⟨⟨argument, t⟩, -, h⟩
    · exact ih (by omega) hv h
    exact liesIn_of_expect (.inr rfl) (hv.of_leadsTo t.2) (error_of_bind h fun _ => ⟨_, rfl⟩)
  · exact liesIn_of_expect (.inr rfl) hs (error_of_bind h fun _ => ⟨_, rfl⟩)

/-- A call that is read behind its name, which begins at `start`. -/
theorem liesIn_of_readCall {start : Nat} {name : List Char} {required : Bool}
    (hn : s.rest.length ≤ n) (hs : StandsIn text [] s) (hopening : s.peek? = some '(')
    (hstart : start ≤ text.length) (hname : name ++ ['('] <+: text.drop start)
    (h : readCall d name start required s = .error e) : e.LiesIn text := by
  unfold readCall at h
  dsimp only at h
  split at h
  -- a look-up has a path of its own
  · obtain ⟨t, h⟩ := exists_of_expect hopening h
    have htl := t.2.2
    have ht := hs.of_leadsTo t.2.1
    rcases bind_eq_error.1 h with h | ⟨⟨path, v⟩, -, h⟩
    · exact (Json.Path.faultIn_of_read ht h).liesIn ht
    have hvl := v.2.length_le
    exact liesIn_of_readDefault ih (by omega) (ht.of_leadsTo v.2)
      (error_of_bind h fun _ => ⟨_, rfl⟩)
  · split at h
    · cases h
      exact ⟨hstart, .function hname⟩
    · next builtin _ =>
      obtain ⟨t, h⟩ := exists_of_expect hopening h
      have htl := t.2.2
      exact liesIn_of_readArguments ih builtin.hasRoom_shape (by omega) (hs.of_leadsTo t.2.1)
        (error_of_bind h fun _ => ⟨_, rfl⟩)

/-- A special reports that it lies too deep, or else the faults of a call or of an identifier. -/
theorem liesIn_of_readSpecial (hn : s.rest.length ≤ n) (hs : StandsIn text [] s)
    (hsign : PrecededBy text '$' s.position) (h : readSpecial d s = .error e) : e.LiesIn text := by
  unfold readSpecial at h
  by_cases hd : maxNesting ≤ d
  · rw [if_pos hd] at h
    cases h
    exact ⟨hs.position_le, .nesting hsign⟩
  simp only [if_neg hd] at h
  have ht := hs.of_leadsTo (readSign s).2.2
  have htl := (readSign s).2.2.length_le
  split at h
  · next hcall =>
    have hrest := (readSign s).2.1.rest_eq_run_append Char.isAlpha
    have hmoved := (readSign s).2.1.leadsTo_run Char.isAlpha
    have hul := hmoved.length_le
    obtain ⟨rest, hu⟩ := Scanner.eq_cons_of_peek? hcall.2
    -- the name and the parenthesis are read from here, where an unknown function is reported
    have hname : ((readSign s).2.1.run Char.isAlpha).1 ++ ['('] <+:
        text.drop (readSign s).2.1.position := by
      rw [ht.drop_eq, List.append_nil, hrest, List.prefix_append_right_inj]
      exact ⟨rest, (congrArg Scanner.rest hu).symm⟩
    exact liesIn_of_readCall ih (by omega) (ht.of_leadsTo hmoved) hcall.2 ht.position_le hname
      (error_of_bind h fun _ => ⟨_, rfl⟩)
  · exact liesIn_of_readIdentifier ht rfl (error_of_bind h fun _ => ⟨_, rfl⟩)

end

/-! ### Templates -/

/-- Templates of any length report faults of the text. -/
theorem faultsBelow (text : List Char) (n : Nat) : FaultsBelow text n := by
  induction n with
  | zero => exact fun hn => absurd hn (Nat.not_lt_zero _)
  | succ n ih =>
    intro d ending s e hn hs h
    unfold readItems at h
    dsimp only at h
    split at h
    · next rest p hr =>
      have ht := hs.of_leadsTo (readText ending s.rest s.position).2.2
      have htl := (readText ending s.rest s.position).2.2.length_le
      rw [hr] at ht htl
      simp only [List.length_cons] at htl
      -- the fault is one of the special, or of the items behind it
      rcases bind_eq_error.1 h with h | ⟨⟨item, u⟩, -, h⟩
      · exact liesIn_of_readSpecial ih (by dsimp only; omega) ht.tail ht.precededBy h
      have hul := u.2.length_le
      exact ih (by dsimp only at hul; omega) (ht.tail.of_leadsTo u.2)
        (error_of_bind h fun _ => ⟨_, rfl⟩)
    · cases h

theorem liesIn_of_readItems {text : List Char} {d : Nat} {ending : Ending} {s : Scanner}
    {e : ParseError} (hs : StandsIn text [] s) (h : readItems d ending s = .error e) :
    e.LiesIn text :=
  faultsBelow text (s.rest.length + 1) (Nat.lt_succ_self _) hs h

/-- Every fault lies in the text where it says. -/
theorem liesIn_of_parse {text : String} {e : ParseError} (h : parse text = .error e) :
    e.LiesIn text.toList := by
  exact liesIn_of_readItems (Scanner.standsIn_ofString text) (error_of_bind h fun _ => ⟨_, rfl⟩)

end Template

/-! ### Messages -/

/-- Does a text have at a place what a message says of it? -/
structure PointsAt (text : List Char) (message : String) (place : Nat) : Prop where
  within : place ≤ text.length
  comma : message = "Expected ','" → text[place]? ≠ some ','
  parenthesis : message = "Expected ')'" → text[place]? ≠ some ')'
  bracket : message = "Expected ']'" → place = text.length
  opening : message ≠ "Expected '('"
  identifier : message = "Expected identifier" →
    ∀ c ∈ text[place]?, c.isAlphanum = false ∧ c ≠ '_' ∧ c ≠ '-'
  index : ∀ digits, message = "Invalid numeric identifier " ++ digits →
    digits ≠ "" ∧ (∀ c ∈ digits.toList, c.isDigit = true) ∧ digits.toList <+: text.drop place
  function : ∀ name, message = "Invalid function '" ++ name ++ "'" →
    name.toList ++ ['('] <+: text.drop place
  nesting : message = "Nested deeper than 64 levels" → PrecededBy text '$' place
  duplicate : message = "Duplicate case" → PrecededBy text ',' place
  noCase : message = "Expected at least one case" → ∀ c ∈ text[place]?, c = ')'
  pattern : ∀ summary, message = "Invalid regex (" ++ summary ++ ")" → PrecededBy text '=' place
  known : message ∈ ["Expected ','", "Expected ')'", "Expected ']'", "Expected identifier",
      "Nested deeper than 64 levels", "Duplicate case", "Expected at least one case"] ∨
    (∃ digits, message = "Invalid numeric identifier " ++ digits) ∨
    (∃ name, message = "Invalid function '" ++ name ++ "'") ∨
    ∃ summary, message = "Invalid regex (" ++ summary ++ ")"

namespace ParseFault

/-- The wordings of the faults, one by one, are what a message is told by. -/
theorem message_expected (c : Char) :
    message (.expected c) = "Expected '" ++ c.toString ++ "'" := rfl

theorem message_expectedIdentifier : message .expectedIdentifier = "Expected identifier" := rfl

theorem message_invalidIndex (digits : String) :
    message (.invalidIndex digits) = "Invalid numeric identifier " ++ digits := rfl

theorem message_unknownFunction (name : String) :
    message (.unknownFunction name) = "Invalid function '" ++ name ++ "'" := rfl

theorem message_tooDeep : message .tooDeep = "Nested deeper than 64 levels" := by
  decide +kernel

theorem message_duplicateCase : message .duplicateCase = "Duplicate case" := rfl

theorem message_noCase : message .noCase = "Expected at least one case" := rfl

theorem message_invalidPattern (fault : Regex.Error) :
    message (.invalidPattern fault) = "Invalid regex (" ++ fault.message ++ ")" := rfl

/-- A message tells the fault, unless it is the message of a pattern. -/
theorem eq_of_message {f g : ParseFault} {m : String} (hf : f.message = m) (hg : g.message = m)
    (hpattern : ∀ fault, g ≠ .invalidPattern fault) : f = g := by
  have h := hf.trans hg.symm
  rw [← String.toList_inj] at h
  cases f <;> cases g <;> simp [message_expected, message_expectedIdentifier,
    message_invalidIndex, message_unknownFunction, message_tooDeep, message_duplicateCase,
    message_noCase, message_invalidPattern] at h hpattern ⊢
  · exact h
  · exact String.toList_inj.1 h
  · exact String.toList_inj.1 h

/-- Only a faulty pattern has a message with a summary of its fault. -/
theorem exists_of_message {f : ParseFault} {summary : String}
    (h : f.message = "Invalid regex (" ++ summary ++ ")") : ∃ fault, f = .invalidPattern fault := by
  rw [← String.toList_inj] at h
  cases f <;> simp [message_expected, message_expectedIdentifier,
    message_invalidIndex, message_unknownFunction, message_tooDeep, message_duplicateCase,
    message_noCase] at h ⊢

/-- What a fault says of a place is what its message says. -/
theorem LiesAt.pointsAt {text : List Char} {place : Nat} {f : ParseFault}
    (h : f.LiesAt text place) (hplace : place ≤ text.length) : PointsAt text f.message place where
  within := hplace
  -- each message comes from one kind of fault only, so the place is what that fault says
  comma hm := by
    obtain rfl := eq_of_message hm (message_expected ',') (by simp)
    cases h with
    | separator _ hne => exact hne
    | bracket hc => cases hc
  parenthesis hm := by
    obtain rfl := eq_of_message hm (message_expected ')') (by simp)
    cases h with
    | separator _ hne => exact hne
    | bracket hc => cases hc
  bracket hm := by
    obtain rfl := eq_of_message hm (message_expected ']') (by simp)
    cases h with
    | separator hc => rcases hc with hc | hc <;> cases hc
    | bracket _ hend => exact hend
  opening hm := by
    obtain rfl := eq_of_message hm (message_expected '(') (by simp)
    cases h with
    | separator hc => rcases hc with hc | hc <;> cases hc
    | bracket hc => cases hc
  identifier hm c hc := by
    obtain rfl := eq_of_message hm message_expectedIdentifier (by simp)
    cases h with
    | identifier hchar => simpa [Template.isIdentifierChar, and_assoc] using hchar c hc
  index digits hm := by
    obtain rfl := eq_of_message hm (message_invalidIndex digits) (by simp)
    cases h with
    | index hne hall hfront =>
      rw [String.toList_ofList]
      exact ⟨by simpa using hne, hall, hfront⟩
  function name hm := by
    obtain rfl := eq_of_message hm (message_unknownFunction name) (by simp)
    cases h with
    | function hfront =>
      rw [String.toList_ofList]
      exact hfront
  nesting hm := by
    obtain rfl := eq_of_message hm message_tooDeep (by simp)
    cases h with
    | nesting hbefore => exact hbefore
  duplicate hm := by
    obtain rfl := eq_of_message hm message_duplicateCase (by simp)
    cases h with
    | duplicate hbefore => exact hbefore
  noCase hm := by
    obtain rfl := eq_of_message hm message_noCase (by simp)
    cases h with
    | noCase hend => exact hend
  pattern summary hm := by
    obtain ⟨fault, rfl⟩ := exists_of_message hm
    cases h with
    | pattern hbefore => exact hbefore
  known := by
    cases h with
    | separator hc => rcases hc with rfl | rfl <;> exact .inl (by decide)
    | bracket hc => subst hc; exact .inl (by decide)
    | identifier => exact .inl (by decide)
    | index => exact .inr (.inl ⟨_, rfl⟩)
    | function => exact .inr (.inr (.inl ⟨_, rfl⟩))
    | nesting => rw [message_tooDeep]; exact .inl (by decide)
    | duplicate => exact .inl (by decide)
    | noCase => exact .inl (by decide)
    | pattern => exact .inr (.inr (.inr ⟨_, rfl⟩))

end ParseFault

/-- Every message points at what it reports. -/
theorem Template.pointsAt_of_parse {text : String} {e : ParseError}
    (h : parse text = .error e) : PointsAt text.toList e.message e.offset :=
  have hlies := liesIn_of_parse h
  hlies.fault.pointsAt hlies.offset_le

/-- The place counts characters, of which the first is longer than a byte. -/
theorem Template.pointsAt_of_parse_unclosed :
    parse "é$(a" = .error ⟨.expected ')', 4⟩ ∧ PointsAt "é$(a".toList "Expected ')'" 4 := by
  have hspecial : readSpecial 0 ⟨['(', 'a'], 2⟩ = .error ⟨.expected ')', 4⟩ := by
    rw [readSpecial]
    rfl
  have h : parse "é$(a" = .error ⟨.expected ')', 4⟩ := parse_of_readSpecial rfl hspecial
  exact ⟨h, pointsAt_of_parse h⟩

end CommandTemplate
