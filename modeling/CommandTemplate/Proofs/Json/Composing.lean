import CommandTemplate.Proofs.Json.Faults
import CommandTemplate.Proofs.Json.Selecting

/-!
Paths that are put together.

Where an arrow stands between two texts, their paths are read one after the other
(`Path.read_composed`).  Two things have to be seen.  The reader comes to the arrow in the same
state after every text that it reads to the end, if only the text does not end in an escape
(`reading_append`): an arrow ends a key, and a bracket that closes does so whatever follows it.
And what is read does not depend on the position of the text, which is only added to the places of
faults (`reading_moveBy`), also where these lie in brackets.
-/

namespace CommandTemplate

namespace Text

/-- Does a text end in a backslash that escapes nothing? -/
def endsInEscape : List Char → Bool
  | [] => false
  | ['\\'] => true
  | '\\' :: _ :: s => endsInEscape s
  | _ :: s => endsInEscape s

theorem endsInEscape_cons {c : Char} (h : c ≠ '\\') (s : List Char) :
    endsInEscape (c :: s) = endsInEscape s := by
  rw [endsInEscape]
  all_goals simp [h]

/-- A text without an escape at its end may be put in front. -/
theorem Nests.endsInEscape_append {d e : Nat} {s : List Char} (h : Nests d s e) (t : List Char) :
    endsInEscape (s ++ t) = endsInEscape t := by
  induction h with
  | nil => rfl
  | escape c _ ih => exact ih
  | opening _ ih | closing _ ih => exact (endsInEscape_cons (by decide) _).trans ih
  | other h _ _ _ ih => exact (endsInEscape_cons h _).trans ih

/-- A scanner with more text behind. -/
def Scanner.append (s : Scanner) (text : List Char) : Scanner :=
  ⟨s.rest ++ text, s.position⟩

/-- A scanner at another position. -/
def Scanner.moveBy (n : Nat) (s : Scanner) : Scanner :=
  ⟨s.rest, s.position + n⟩

end Text

/-- A fault at a place further on. -/
def ParseError.moveBy (n : Nat) (e : ParseError) : ParseError :=
  ⟨e.fault, e.offset + n⟩

namespace Json

open Text (Scanner endsInEscape endsInEscape_cons)
open Text.Scanner (After)

/-! ### Readings -/

/-- The path that is read, or the fault, and what is left, without the proof that comes with it. -/
def Path.reading (stops : List Char) (s : Scanner) : Except ParseError (Path × Scanner) :=
  (fun (path, t) => (path, t.1)) <$> Path.read stops s

/-- A reading with steps in front. -/
def Path.prepend (front : Path) : Path × Scanner → Path × Scanner
  | (path, t) => (front ++ path, t)

section

variable {stops rest inner after : List Char} {c : Char} {p : Nat}

/-- What a path gives is what its reading is. -/
theorem gives_iff_reading {s u : Scanner} {path : Path} :
    Gives (Path.read stops s) path u ↔ Path.reading stops s = .ok (path, u) := by
  unfold Gives Path.reading
  cases Path.read stops s with
  | error e => simp
  | ok r =>
    obtain ⟨path', t⟩ := r
    simp

theorem error_iff_reading {s : Scanner} {e : ParseError} :
    Path.read stops s = .error e ↔ Path.reading stops s = .error e := by
  unfold Path.reading
  cases Path.read stops s <;> simp

theorem reading_nil : Path.reading stops ⟨[], p⟩ = .ok ([], ⟨[], p⟩) := by
  rw [Path.reading, Path.read]
  rfl

/-- At a stop character the path ends. -/
theorem reading_stop (h : c ∈ stops) :
    Path.reading stops ⟨c :: rest, p⟩ = .ok ([], ⟨c :: rest, p⟩) := by
  unfold Path.reading
  -- the reader looks at brackets and arrows before it looks at other characters
  by_cases hbracket : c = '['
  · subst hbracket
    rw [Path.read, if_pos h]
    rfl
  by_cases harrow : c = '-' ∧ rest.head? = some '>'
  · obtain ⟨rfl, hhead⟩ := harrow
    obtain ⟨rest, rfl⟩ := List.head?_eq_some_iff.1 hhead
    rw [Path.read, if_pos h]
    rfl
  · rw [Path.read, if_pos h]
    · rfl
    · rintro _ rfl rfl
      exact harrow ⟨rfl, rfl⟩
    · exact hbracket

theorem reading_arrow (h : '-' ∉ stops) :
    Path.reading stops ⟨'-' :: '>' :: rest, p⟩ = Path.reading stops ⟨rest, p + 2⟩ := by
  rw [Path.reading, Path.reading, Path.read, if_neg h]
  cases Path.read stops ⟨rest, p + 2⟩ <;> rfl

/-- A bracket that is not closed is a fault at the end of the text. -/
theorem reading_unclosed (h : '[' ∉ stops) (hclosing : closing? 0 rest = none) :
    Path.reading stops ⟨'[' :: rest, p⟩ = .error ⟨.expected ']', p + 1 + rest.length⟩ := by
  rw [Path.reading, Path.read, if_neg h]
  dsimp only
  split
  · rfl
  · next hsome => cases hclosing.symm.trans hsome

/-- A bracket is one step, and the path goes on behind it. -/
theorem reading_bracket (h : '[' ∉ stops) (hclosing : closing? 0 rest = some (inner, after)) :
    Path.reading stops ⟨'[' :: rest, p⟩ = Step.ofBracket inner (p + 1) >>= fun step =>
      Path.prepend [step] <$> Path.reading stops ⟨after, p + 1 + inner.length + 1⟩ := by
  rw [Path.reading, Path.read, if_neg h]
  dsimp only
  split
  · next hnone => cases hclosing.symm.trans hnone
  · next hsome =>
    cases hclosing.symm.trans hsome
    unfold Path.reading
    cases Step.ofBracket inner (p + 1) with
    | error e => rfl
    | ok step =>
      cases Path.read stops ⟨after, p + 1 + inner.length + 1⟩ <;> rfl

/-- The front of a text that does not match an arrow. -/
theorem head?_ne_of_forall (h : ∀ behind, c = '-' → rest = '>' :: behind → False) (hc : c = '-') :
    rest.head? ≠ some '>' := by
  intro hhead
  obtain ⟨behind, hrest⟩ := List.head?_eq_some_iff.1 hhead
  exact h behind hc hrest

/-- All else begins a key. -/
theorem reading_key (h : c ∉ stops) (hbracket : c ≠ '[')
    (harrow : c = '-' → rest.head? ≠ some '>') :
    Path.reading stops ⟨c :: rest, p⟩ =
      Path.prepend [.key (readKey stops c rest (p + 1)).1] <$>
        Path.reading stops (readKey stops c rest (p + 1)).2.1 := by
  rw [Path.reading, Path.read, if_neg h]
  · generalize readKey stops c rest (p + 1) = r
    obtain ⟨key, t⟩ := r
    unfold Path.reading
    dsimp only
    cases Path.read stops t.1 <;> rfl
  · rintro _ rfl rfl
    exact harrow rfl rfl
  · exact hbracket

/-- The path of a selection is read by itself, and then its condition. -/
theorem ofBracket_of_selection {mode : Selection} {width : Nat} {text : List Char}
    (h : selection? inner = some (mode, width, text)) :
    Step.ofBracket inner p =
      Path.reading [] ⟨(condition 0 text).1, p + width⟩ >>= fun (path, _) =>
        .select mode path <$>
          readPattern (condition 0 text).2 (p + width + (condition 0 text).1.length + 1) := by
  rw [Step.ofBracket]
  split
  · next hnone => cases h.symm.trans hnone
  · next hsome =>
    cases h.symm.trans hsome
    unfold Path.reading
    cases Path.read [] ⟨(condition 0 text).1, p + width⟩ <;> rfl

end

/-! ### Positions -/

section

variable {stops rest : List Char} {n p q : Nat}

/-- A key does not depend on its position. -/
theorem keyRest_moveBy (stops rest : List Char) (h : q = p + n) :
    (keyRest stops rest q).1 = (keyRest stops rest p).1 ∧
      (keyRest stops rest q).2.1 = (keyRest stops rest p).2.1.moveBy n := by
  -- the cases are those of `keyRest`, which looks at characters only
  fun_induction keyRest stops rest p generalizing q with
  | case1 =>
    subst h
    exact ⟨rfl, rfl⟩
  | case2 rest p hstop =>
    subst h
    cases rest <;> rw [keyRest, if_pos hstop] <;> exact ⟨rfl, rfl⟩
  | case3 p hstop =>
    subst h
    rw [keyRest, if_neg hstop]
    refine ⟨rfl, ?_⟩
    show Scanner.mk [] (p + n + 1) = ⟨[], p + 1 + n⟩
    rw [Nat.add_right_comm]
  | case4 p hstop c rest key t hkey ih =>
    have hrest := ih (q := q + 2) (by omega)
    rw [hkey] at hrest
    rw [keyRest, if_neg hstop]
    exact ⟨congrArg (c :: ·) hrest.1, hrest.2⟩
  | case5 c rest p hescape hend =>
    subst h
    rw [keyRest, if_pos hend]
    · exact ⟨rfl, rfl⟩
    · exact hescape
  | case6 c rest p hescape hend key t hkey ih =>
    have hrest := ih (q := q + 1) (by omega)
    rw [hkey] at hrest
    rw [keyRest, if_neg hend]
    · exact ⟨congrArg (c :: ·) hrest.1, hrest.2⟩
    · exact hescape

/-- A whole key does not depend on its position. -/
theorem readKey_moveBy (stops rest : List Char) (c : Char) (h : q = p + n) :
    (readKey stops c rest q).1 = (readKey stops c rest p).1 ∧
      (readKey stops c rest q).2.1 = (readKey stops c rest p).2.1.moveBy n := by
  unfold readKey
  split
  · cases rest with
    | nil =>
      subst h
      exact ⟨rfl, rfl⟩
    | cons d rest =>
      have hrest := keyRest_moveBy stops rest (q := q + 1) (p := p + 1) (n := n) (by omega)
      exact ⟨congrArg (fun key => String.ofList (d :: key)) hrest.1, hrest.2⟩
  · have hrest := keyRest_moveBy stops rest h
    exact ⟨congrArg (fun key => String.ofList (c :: key)) hrest.1, hrest.2⟩

/-- A fault of a condition is moved with it. -/
theorem readPattern_add (source : Option (List Char)) :
    readPattern source (p + n) = (readPattern source p).mapError (·.moveBy n) := by
  unfold readPattern
  split
  · rfl
  · split <;> rfl

/-- A reading at another position. -/
def Path.moveReading (n : Nat) :
    Except ParseError (Path × Scanner) → Except ParseError (Path × Scanner)
  | .ok (path, t) => .ok (path, t.moveBy n)
  | .error e => .error (e.moveBy n)

/-- Steps in front stay where they are. -/
theorem moveReading_prepend (front : Path) (r : Except ParseError (Path × Scanner)) :
    Path.moveReading n (Path.prepend front <$> r) =
      Path.prepend front <$> Path.moveReading n r := by
  rcases r with e | ⟨path, t⟩ <;> rfl

/-- The position of a text is added to the places of its faults, and makes no other difference. -/
theorem reading_moveBy (stops : List Char) (s : Scanner) :
    Path.reading stops (s.moveBy n) = Path.moveReading n (Path.reading stops s) := by
  -- a selection reads its path from a text of its own, so steps are moved together with paths
  refine Path.read.induct
    (fun inner p => Step.ofBracket inner (p + n) = (Step.ofBracket inner p).mapError (·.moveBy n))
    (fun stops s => Path.reading stops (s.moveBy n) = Path.moveReading n (Path.reading stops s))
    ?simple ?select ?nil ?arrowStop ?arrow ?bracketStop ?unclosed ?bracket ?stop ?key stops s
  case simple =>
    intro inner p hnone
    rw [ofBracket_of_none hnone, ofBracket_of_none hnone]
    rfl
  case select =>
    intro inner p mode width text hselection ih
    rw [Scanner.moveBy] at ih
    rw [ofBracket_of_selection hselection, ofBracket_of_selection hselection,
      Nat.add_right_comm p n width, ih]
    rcases Path.reading [] ⟨(condition 0 text).1, p + width⟩ with e | ⟨path, t⟩
    · rfl
    show (_ <$> readPattern _ (p + width + n + _ + 1)) = (_ <$> readPattern _ _).mapError _
    rw [Nat.add_right_comm (p + width) n, Nat.add_right_comm _ n 1, readPattern_add]
    generalize readPattern _ _ = pattern
    cases pattern <;> rfl
  case nil =>
    intro stops p
    exact reading_nil.trans (congrArg (Path.moveReading n) reading_nil).symm
  case arrowStop | bracketStop =>
    intro stops rest p hstop
    exact (reading_stop hstop).trans (congrArg (Path.moveReading n) (reading_stop hstop)).symm
  case stop =>
    intro stops c rest p _ _ hstop
    exact (reading_stop hstop).trans (congrArg (Path.moveReading n) (reading_stop hstop)).symm
  case arrow =>
    intro stops rest p hstop ih
    rw [Scanner.moveBy] at ih
    rw [Scanner.moveBy, reading_arrow hstop, reading_arrow hstop, Nat.add_right_comm p n 2, ih]
  case unclosed =>
    intro stops rest p hstop hclosing
    rw [Scanner.moveBy, reading_unclosed hstop hclosing, reading_unclosed hstop hclosing]
    show Except.error _ = Except.error _
    rw [ParseError.moveBy, Nat.add_right_comm p n 1, Nat.add_right_comm _ n]
  case bracket =>
    intro stops rest p hstop inner after hclosing ihstep ih
    rw [Scanner.moveBy] at ih
    rw [Scanner.moveBy, reading_bracket hstop hclosing, reading_bracket hstop hclosing,
      Nat.add_right_comm p n 1, ihstep]
    cases Step.ofBracket inner (p + 1) with
    | error e => rfl
    | ok step =>
      show Path.prepend [step] <$> Path.reading stops ⟨after, p + 1 + n + inner.length + 1⟩ =
        Path.moveReading n (Path.prepend [step] <$> _)
      rw [moveReading_prepend, Nat.add_right_comm _ n, Nat.add_right_comm _ n 1, ih]
  case key =>
    intro stops c rest p harrow hbracket hstop key t hkey ih
    have harrow' := head?_ne_of_forall harrow
    have hmoved := readKey_moveBy stops rest c (Nat.add_right_comm p n 1)
    rw [Scanner.moveBy, reading_key hstop hbracket harrow', reading_key hstop hbracket harrow',
      hmoved.1, hmoved.2, moveReading_prepend, hkey, ih]

end

/-! ### Texts in front of an arrow -/

section

variable {stops rest after : List Char} {c : Char} {p : Nat}

/-- What stands in front of an arrow ends in one only if it did so before. -/
theorem head?_append_arrow (rest after : List Char) :
    (rest ++ '-' :: '>' :: after).head? = some '>' ↔ rest.head? = some '>' := by
  cases rest <;> simp

/-- An arrow ends a key as the end of the text does. -/
theorem keyRest_append (stops after : List Char) (h : endsInEscape rest = false) (p : Nat) :
    (keyRest stops (rest ++ '-' :: '>' :: after) p).1 = (keyRest stops rest p).1 ∧
      (keyRest stops (rest ++ '-' :: '>' :: after) p).2.1 =
        (keyRest stops rest p).2.1.append ('-' :: '>' :: after) ∧
      endsInEscape (keyRest stops rest p).2.1.rest = false := by
  -- the arrow is looked at where the key has come to its end, and there it ends the key
  fun_induction keyRest stops rest p with
  | case1 p =>
    rw [List.nil_append, keyRest, if_pos (.inr (.inr ⟨rfl, rfl⟩))]
    · exact ⟨rfl, rfl, h⟩
    · decide
  | case2 rest p hstop =>
    simp only [List.cons_append]
    cases rest with
    | nil => cases h
    | cons d rest =>
      rw [List.cons_append, keyRest, if_pos hstop]
      exact ⟨rfl, rfl, h⟩
  | case3 p hstop => cases h
  | case4 p hstop c rest key t hkey ih =>
    have hrest := ih h
    rw [hkey] at hrest
    simp only [List.cons_append]
    rw [keyRest, if_neg hstop]
    exact ⟨congrArg (c :: ·) hrest.1, hrest.2⟩
  | case5 c rest p hescape hend =>
    rw [← head?_append_arrow _ after] at hend
    rw [List.cons_append, keyRest, if_pos hend]
    · exact ⟨rfl, rfl, h⟩
    · exact hescape
  | case6 c rest p hescape hend key t hkey ih =>
    have hrest := ih (endsInEscape_cons hescape rest ▸ h)
    rw [hkey] at hrest
    rw [← head?_append_arrow _ after] at hend
    rw [List.cons_append, keyRest, if_neg hend]
    · exact ⟨congrArg (c :: ·) hrest.1, hrest.2⟩
    · exact hescape

/-- An arrow ends a whole key as the end of the text does. -/
theorem readKey_append (stops after : List Char) (h : endsInEscape (c :: rest) = false) (p : Nat) :
    (readKey stops c (rest ++ '-' :: '>' :: after) p).1 = (readKey stops c rest p).1 ∧
      (readKey stops c (rest ++ '-' :: '>' :: after) p).2.1 =
        (readKey stops c rest p).2.1.append ('-' :: '>' :: after) ∧
      endsInEscape (readKey stops c rest p).2.1.rest = false := by
  by_cases hc : c = '\\'
  · subst hc
    cases rest with
    | nil => cases h
    | cons d rest =>
      have hrest := keyRest_append stops after (show endsInEscape rest = false from h) (p + 1)
      exact ⟨congrArg (fun key => String.ofList (d :: key)) hrest.1, hrest.2⟩
  · rw [endsInEscape_cons hc] at h
    have hrest := keyRest_append stops after h p
    unfold readKey
    rw [if_neg hc, if_neg hc]
    exact ⟨congrArg (fun key => String.ofList (c :: key)) hrest.1, hrest.2⟩

/-- A bracket is closed whatever follows. -/
theorem closing?_append_of_eq_some {inner behind : List Char}
    (h : closing? 0 rest = some (inner, behind)) :
    closing? 0 (rest ++ after) = some (inner, behind ++ after) := by
  obtain rfl := eq_of_closing? h
  rw [List.append_assoc]
  exact closing?_bracketed (nests_of_closing? h) (behind ++ after)

/-- An escape cannot reach over the bracket that closes. -/
theorem endsInEscape_of_closing? {inner behind : List Char}
    (h : closing? 0 rest = some (inner, behind)) : endsInEscape rest = endsInEscape behind := by
  rw [eq_of_closing? h, (nests_of_closing? h).endsInEscape_append, endsInEscape_cons (by decide)]

/-- Steps are put in front of one another. -/
theorem prepend_prepend (front front' : Path) (r : Except ParseError (Path × Scanner)) :
    Path.prepend front <$> (Path.prepend front' <$> r) = Path.prepend (front ++ front') <$> r := by
  rcases r with e | ⟨path, t⟩
  · rfl
  · exact congrArg (fun steps => Except.ok (steps, t)) (List.append_assoc _ _ _).symm

/-- What is read behind the steps in front. -/
theorem of_prepend_eq_ok {front path : Path} {t : Scanner} {r : Except ParseError (Path × Scanner)}
    (h : Path.prepend front <$> r = .ok (path, t)) :
    ∃ path', r = .ok (path', t) ∧ path = front ++ path' := by
  rcases r with e | ⟨path', t'⟩
  · cases h
  · cases h
    exact ⟨path', rfl, rfl⟩

/-- The steps in which a path is read up to a stop character or the end of the text. -/
inductive Path.Reads (stops : List Char) : Scanner → Path → Scanner → Prop
  | nil (p : Nat) : Reads stops ⟨[], p⟩ [] ⟨[], p⟩
  | stop {c : Char} (rest : List Char) (p : Nat) : c ∈ stops →
    Reads stops ⟨c :: rest, p⟩ [] ⟨c :: rest, p⟩
  | arrow {rest : List Char} {p : Nat} {path : Path} {t : Scanner} : '-' ∉ stops →
    Reads stops ⟨rest, p + 2⟩ path t → Reads stops ⟨'-' :: '>' :: rest, p⟩ path t
  | bracket {rest inner behind : List Char} {p : Nat} {step : Step} {path : Path} {t : Scanner} :
    '[' ∉ stops → closing? 0 rest = some (inner, behind) →
    Step.ofBracket inner (p + 1) = .ok step →
    Reads stops ⟨behind, p + 1 + inner.length + 1⟩ path t →
    Reads stops ⟨'[' :: rest, p⟩ (step :: path) t
  | key {c : Char} {rest : List Char} {p : Nat} {path : Path} {t : Scanner} :
    c ∉ stops → c ≠ '[' → (c = '-' → rest.head? ≠ some '>') →
    Reads stops (readKey stops c rest (p + 1)).2.1 path t →
    Reads stops ⟨c :: rest, p⟩ (.key (readKey stops c rest (p + 1)).1 :: path) t

/-- A path is read in such steps. -/
theorem reads_of_reading {s t : Scanner} {path : Path}
    (h : Path.reading stops s = .ok (path, t)) : Path.Reads stops s path t := by
  revert path t
  -- nothing is to be said of the steps in brackets
  refine Path.read.induct (fun _ _ => True) (fun stops s => ∀ {path t},
      Path.reading stops s = .ok (path, t) → Path.Reads stops s path t)
    ?simple ?select ?nil ?arrowStop ?arrow ?bracketStop ?unclosed ?bracket ?stop ?key stops s
  case simple | select => intros; trivial
  case nil =>
    intro stops p path t hread
    cases reading_nil.symm.trans hread
    exact .nil p
  case arrowStop | bracketStop =>
    intro stops rest p hstop path t hread
    cases (reading_stop hstop).symm.trans hread
    exact .stop _ p hstop
  case stop =>
    intro stops c rest p _ _ hstop path t hread
    cases (reading_stop hstop).symm.trans hread
    exact .stop rest p hstop
  case arrow =>
    intro stops rest p hstop ih path t hread
    rw [reading_arrow hstop] at hread
    exact .arrow hstop (ih hread)
  case unclosed =>
    intro stops rest p hstop hclosing path t hread
    cases (reading_unclosed hstop hclosing).symm.trans hread
  case bracket =>
    intro stops rest p hstop inner behind hclosing _ ih path t hread
    rw [reading_bracket hstop hclosing] at hread
    obtain ⟨step, hstep, hread⟩ := bind_eq_ok.1 hread
    obtain ⟨path', hpath', rfl⟩ := of_prepend_eq_ok hread
    exact .bracket hstop hclosing hstep (ih hpath')
  case key =>
    intro stops c rest p harrow hbracket hstop key u hkey ih path t hread
    have harrow' := head?_ne_of_forall harrow
    rw [reading_key hstop hbracket harrow'] at hread
    obtain ⟨path', hpath', rfl⟩ := of_prepend_eq_ok hread
    refine .key hstop hbracket harrow' ?_
    rw [hkey] at hpath' ⊢
    exact ih hpath'

/-- Behind a text that is read to its end the reader stands at the arrow as at a beginning. -/
theorem reading_append {s t : Scanner} {path : Path} (hread : Path.Reads stops s path t)
    (ht : t.rest = []) (hend : endsInEscape s.rest = false) :
    Path.reading stops (s.append ('-' :: '>' :: after)) =
      Path.prepend path <$> Path.reading stops (t.append ('-' :: '>' :: after)) := by
  -- each step is read as it was, since what ends it stands in front of the arrow
  induction hread with
  | nil p =>
    show Path.reading stops ⟨'-' :: '>' :: after, p⟩ =
      Path.prepend [] <$> Path.reading stops ⟨'-' :: '>' :: after, p⟩
    rcases Path.reading stops ⟨'-' :: '>' :: after, p⟩ with e | r <;> rfl
  | stop => cases ht
  | arrow hstop _ ih =>
    rw [endsInEscape_cons (by decide), endsInEscape_cons (by decide)] at hend
    exact (reading_arrow hstop).trans (ih ht hend)
  | @bracket rest inner behind p step path t hstop hclosing hstep _ ih =>
    rw [endsInEscape_cons (by decide), endsInEscape_of_closing? hclosing] at hend
    show Path.reading stops ⟨'[' :: (rest ++ '-' :: '>' :: after), p⟩ = _
    rw [reading_bracket hstop (closing?_append_of_eq_some hclosing), hstep]
    exact (congrArg (Path.prepend [step] <$> ·) (ih ht hend)).trans (prepend_prepend _ _ _)
  | @key c rest p path t hstop hbracket harrow _ ih =>
    obtain ⟨hname, hbehind, hescape⟩ := readKey_append stops after hend (p + 1)
    show Path.reading stops ⟨c :: (rest ++ '-' :: '>' :: after), p⟩ = _
    rw [reading_key hstop hbracket fun hc => mt (head?_append_arrow _ _).1 (harrow hc), hname,
      hbehind, ih ht hescape]
    exact prepend_prepend _ _ _

/-- A text without stop characters is read to its end. -/
theorem Path.Reads.rest_eq_nil {s t : Scanner} {path : Path} (hread : Path.Reads stops s path t)
    (hstops : ∀ c ∈ stops, c ∉ s.rest) : t.rest = [] := by
  induction hread with
  | nil => rfl
  | stop rest p hstop => exact absurd List.mem_cons_self (hstops _ hstop)
  | arrow _ _ ih =>
    exact ih fun c hc hrest => hstops c hc (.tail _ (.tail _ hrest))
  | bracket _ hclosing _ _ ih =>
    refine ih fun c hc hbehind => hstops c hc (.tail _ ?_)
    rw [eq_of_closing? hclosing]
    exact List.mem_append_right _ (.tail _ hbehind)
  | @key c rest p _ _ _ _ _ _ ih =>
    have hsuffix := (readKey stops c rest (p + 1)).2.2.suffix
    exact ih fun c hc hu => hstops c hc (.tail _ (hsuffix.mem hu))

end

/-! ### Composition -/

/-- A text without stop characters is left at its end. -/
theorem eq_of_reading_ofString {text : String} {stops : List Char} {path : Path}
    {t : After (.ofString text)} (hstops : ∀ c ∈ stops, c ∉ text.toList)
    (hread : Path.read stops (.ofString text) = .ok (path, t)) :
    Path.reading stops (.ofString text) = .ok (path, ⟨[], text.length⟩) := by
  have hreading := gives_iff_reading.1 ⟨t, hread, rfl⟩
  have hrest := (reads_of_reading hreading).rest_eq_nil hstops
  have hposition : t.1.position = text.length := by
    have := t.2.position_add
    rw [hrest] at this
    simpa [Scanner.ofString, String.length_toList] using this
  rw [hreading, ← hrest, ← hposition]

/-- Two paths with an arrow between them are read one after the other and lead where the second one
leads from the value of the first.  A fault of the second is found in the whole, at its place. -/
theorem Path.read_composed {a b : String} {stops : List Char} {path : Path}
    {t : After (.ofString a)} (ha : ∀ c ∈ stops, c ∉ a.toList)
    (hb : ∀ c ∈ stops, c ∉ b.toList) (hdash : '-' ∉ stops)
    (hread : read stops (.ofString a) = .ok (path, t)) (hend : endsInEscape a.toList = false) :
    (∀ path' t', read stops (.ofString b) = .ok (path', t') →
      Gives (read stops (.ofString (a ++ "->" ++ b))) (path ++ path')
          ⟨[], (a ++ "->" ++ b).length⟩ ∧
        ∀ document, resolve (path ++ path') document =
          resolve path document >>= resolve path') ∧
      ∀ e, read stops (.ofString b) = .error e →
        read stops (.ofString (a ++ "->" ++ b)) = .error ⟨e.fault, a.length + 2 + e.offset⟩ := by
  have hlength : (a ++ "->" ++ b).length = b.length + (a.length + 2) := by
    rw [String.length_append, String.length_append, Nat.add_comm]
    rfl
  have htext : Scanner.ofString (a ++ "->" ++ b) =
      (Scanner.ofString a).append ('-' :: '>' :: b.toList) := by
    simp [Scanner.ofString, Scanner.append]
  have hmoved : Scanner.mk b.toList (a.length + 2) =
      (Scanner.ofString b).moveBy (a.length + 2) := by
    rw [Scanner.moveBy, Scanner.ofString, Nat.zero_add]
  have hreads : Reads stops (.ofString a) path ⟨[], a.length⟩ :=
    reads_of_reading (eq_of_reading_ofString ha hread)
  -- behind the first text comes the arrow, and behind the arrow the second text further on
  have hwhole : reading stops (.ofString (a ++ "->" ++ b)) =
      prepend path <$> moveReading (a.length + 2) (reading stops (.ofString b)) :=
    calc reading stops (.ofString (a ++ "->" ++ b))
      _ = prepend path <$> reading stops ⟨'-' :: '>' :: b.toList, a.length⟩ := by
        rw [htext, reading_append hreads rfl hend]
        rfl
      _ = prepend path <$> moveReading (a.length + 2) (reading stops (.ofString b)) := by
        rw [reading_arrow hdash, hmoved, reading_moveBy]
  constructor
  · intro path' t' hread'
    refine ⟨gives_iff_reading.2 ?_, resolve_append path path'⟩
    rw [hwhole, eq_of_reading_ofString hb hread', hlength]
    rfl
  · intro e he
    rw [error_iff_reading] at he ⊢
    rw [hwhole, he, Nat.add_comm _ e.offset]
    rfl

/-- An escaped arrow and a hyphen stand in front of the arrow, and behind it a bracket that is not
closed. -/
theorem Path.read_composed_unclosed :
    let stops := [',', ')']
    (∀ c ∈ stops, c ∉ "\\->[-1]-".toList ∧ c ∉ "x[filter:y=[]".toList) ∧ '-' ∉ stops ∧
      Gives (read stops (.ofString "\\->[-1]-")) [.key "->", .index (-1), .key "-"] ⟨[], 8⟩ ∧
      endsInEscape "\\->[-1]-".toList = false ∧
      read stops (.ofString "x[filter:y=[]") = .error ⟨.expected ']', 13⟩ ∧
      read stops (.ofString ("\\->[-1]-" ++ "->" ++ "x[filter:y=[]")) =
        .error ⟨.expected ']', 23⟩ := by
  intro stops
  have hstops : ∀ c ∈ stops, c ∉ "\\->[-1]-".toList ∧ c ∉ "x[filter:y=[]".toList := by
    simp [stops]
  have hdash : '-' ∉ stops := by decide
  have hend : endsInEscape "\\->[-1]-".toList = false := by decide
  -- the hyphen in front of the arrow is a key of its own
  have hread : reading stops (.ofString "\\->[-1]-") =
      .ok ([.key "->", .index (-1), .key "-"], ⟨[], 8⟩) := by
    have htext : Scanner.ofString "\\->[-1]-" =
      ⟨['\\', '-', '>', '[', '-', '1', ']', '-'], 0⟩ := rfl
    have hfirst : readKey stops '\\' ['-', '>', '[', '-', '1', ']', '-'] 1 =
      ("->", ⟨⟨['[', '-', '1', ']', '-'], 3⟩, .step (.step (.refl _))⟩) := rfl
    have hclosing : closing? 0 ['-', '1', ']', '-'] = some (['-', '1'], ['-']) := rfl
    have hindex : Step.ofBracket ['-', '1'] 4 = .ok (.index (-1)) := by
      rw [ofBracket_of_none rfl]
      decide +kernel
    have hlast : reading stops ⟨['-'], 7⟩ = .ok ([.key "-"], ⟨[], 8⟩) := by
      have hkey : readKey stops '-' [] 8 = ("-", .none ⟨[], 8⟩) := rfl
      rw [reading_key (by decide) (by decide) (by decide), hkey]
      exact congrArg (prepend _ <$> ·) reading_nil
    rw [htext, reading_key (by decide) (by decide) (by decide), hfirst,
      reading_bracket (by decide) hclosing, hindex]
    exact congrArg (fun r => prepend _ <$> (prepend _ <$> r)) hlast
  have hfault : reading stops (.ofString "x[filter:y=[]") = .error ⟨.expected ']', 13⟩ := by
    have htext : Scanner.ofString "x[filter:y=[]" = ⟨'x' :: '[' :: "filter:y=[]".toList, 0⟩ := rfl
    have hkey : readKey stops 'x' ('[' :: "filter:y=[]".toList) 1 =
      ("x", .none ⟨'[' :: "filter:y=[]".toList, 1⟩) := rfl
    rw [htext, reading_key (by decide) (by decide) (by decide), hkey]
    exact congrArg (prepend _ <$> ·) (reading_unclosed (by decide) rfl)
  obtain ⟨t, ht, -⟩ := gives_iff_reading.2 hread
  have herror := error_iff_reading.2 hfault
  have hcomposed := read_composed (fun c hc => (hstops c hc).1) (fun c hc => (hstops c hc).2) hdash
    ht hend
  exact ⟨hstops, hdash, gives_iff_reading.2 hread, hend, herror, hcomposed.2 _ herror⟩

end Json

end CommandTemplate
