import CommandTemplate.Replacing

/-!
Texts that are put in the place of matches.

`splice?` puts texts together from the slices between matches and the images of these, and fails
where a slice has its ends in the wrong order or reaches beyond the text.  It never does for the
matches of a pattern (`splice?_matches`): each begins where the last one ended or behind it, and
together with what is between them they are the text (`flatMap_segments`).
-/

namespace CommandTemplate.Regex

/-! ### Slices -/

/-- The characters between two positions of a text, if the text has these. -/
def part? (text : List Char) (start stop : Nat) : Option (List Char) :=
  if start ≤ stop ∧ stop ≤ text.length then some (slice text start stop) else none

/-- A text from the end of the last match on, with images in the place of matches. -/
def splice? (text : List Char) (last : Nat) : List (Match × List Char) → Option (List Char)
  | [] => part? text last text.length
  | (m, image) :: rest => do
    let before ← part? text last m.start
    let after ← splice? text m.stop rest
    return before ++ image ++ after

/-- The slice between two positions of a text that is put together. -/
theorem slice_append (front middle back : List Char) :
    slice (front ++ (middle ++ back)) front.length (front.length + middle.length) = middle := by
  rw [slice, List.drop_left, Nat.add_sub_cancel_left, List.take_left]

/-- Such a slice has its ends in order and in the text. -/
theorem part?_append (front middle back : List Char) :
    part? (front ++ (middle ++ back)) front.length (front.length + middle.length) =
      some middle := by
  rw [part?, slice_append, if_pos]
  simp only [List.length_append]
  omega

/-! ### Segments -/

/-- What a segment was cut from. -/
def Segment.text (m : Segment) : List Char :=
  m.before ++ m.whole

/-- A segment and what is left behind the match are the text. -/
theorem Match.text_segment (m : Match) (rest : List Char) :
    (m.segment rest).text ++ (rest.drop m.start).drop (m.stop - m.start) = rest := by
  rw [segment, Segment.text, slice, List.append_assoc, List.take_append_drop,
    List.take_append_drop]

/-- Behind a first match the segments and what follows them are the text. -/
theorem flatMap_segmentsAfter (r : Regex) (before : Option Char) (rest : List Char) :
    (r.segmentsAfter before rest).1.flatMap Segment.text ++ (r.segmentsAfter before rest).2 =
      rest := by
  fun_induction segmentsAfter r before rest with
  | case1 => rfl
  | case2 before rest m hm left hleft segments tail hrec ih =>
    rw [hrec] at ih
    rw [List.flatMap_cons, List.append_assoc, ih, Match.text_segment]
  | case3 => rfl

/-- The segments of a text and what follows them are the text. -/
theorem flatMap_segments (r : Regex) (text : List Char) :
    (r.segments text).1.flatMap Segment.text ++ (r.segments text).2 = text := by
  unfold segments
  split
  · rfl
  · next m _ =>
    dsimp only
    rw [List.flatMap_cons, List.append_assoc, flatMap_segmentsAfter, Match.text_segment]

/-- Only the images of matches in the text matter. -/
theorem replaceWith_congr {r : Regex} {extent : Extent} {f g : Segment → List Char} {text : String}
    (h : ∀ m ∈ (r.segmentsOf extent text.toList).1, f m = g m) :
    r.replaceWith extent f text = r.replaceWith extent g text := by
  have hsegments : (r.segmentsOf extent text.toList).1.flatMap (fun m => m.before ++ f m) =
      (r.segmentsOf extent text.toList).1.flatMap (fun m => m.before ++ g m) := by
    rw [List.flatMap_def, List.flatMap_def, List.map_congr_left fun m hm => by rw [h m hm]]
  exact congrArg (fun s => String.ofList (s ++ (r.segmentsOf extent text.toList).2)) hsegments

/-- Matches that are put in their own places change nothing. -/
theorem replaceWith_whole (r : Regex) (text : String) :
    r.replaceWith .all Segment.whole text = text := by
  show String.ofList ((r.segments text.toList).1.flatMap Segment.text ++
    (r.segments text.toList).2) = text
  rw [flatMap_segments, String.ofList_toList]

/-! ### Groups -/

/-- A match has all groups, those that take no part in it as well. -/
theorem length_groups_find {r : Regex} {before : Option Char} {rest : List Char} {m : Match}
    (h : r.find? before rest = some m) : m.groups.length = r.groups := by
  simp only [find?, Option.bind_eq_bind, Option.bind_eq_some_iff] at h
  obtain ⟨slots, -, start, -, stop, -, hm⟩ := h
  cases hm
  rw [List.length_map, List.length_range]

/-- A match that is looked for behind another one has all groups. -/
theorem length_groups_findAfter {r : Regex} {before : Option Char} {rest : List Char} {m : Match}
    (h : r.findAfter? before rest = some m) : m.groups.length = r.groups := by
  unfold findAfter? at h
  split at h
  · cases h
  -- an empty match beside the last one is passed over
  · obtain ⟨found, hfound, rfl⟩ := Option.map_eq_some_iff.1 h
    show found.groups.length = r.groups
    exact length_groups_find hfound
  · exact length_groups_find h

/-- All matches behind the first one have all groups. -/
theorem length_groups_segmentsAfter {r : Regex} {before : Option Char} {rest : List Char}
    {m : Segment} (h : m ∈ (r.segmentsAfter before rest).1) : m.groups.length = r.groups := by
  fun_induction segmentsAfter r before rest with
  | case1 => cases h
  | case2 before rest found hfound left hleft segments tail hrec ih =>
    rw [hrec] at ih
    rcases List.mem_cons.1 h with rfl | hmem
    · exact length_groups_findAfter hfound
    · exact ih hmem
  | case3 => cases h

/-- Every match has all groups of the pattern. -/
theorem length_groups {r : Regex} {extent : Extent} {text : List Char} {m : Segment}
    (h : m ∈ (r.segmentsOf extent text).1) : m.groups.length = r.groups := by
  cases extent with
  | all =>
    rw [segmentsOf, segments] at h
    split at h
    · cases h
    · next found hfound =>
      rcases List.mem_cons.1 h with rfl | hmem
      · exact length_groups_find hfound
      · exact length_groups_segmentsAfter hmem
  | first =>
    rw [segmentsOf, firstSegment] at h
    split at h
    · cases h
    · next found hfound =>
      cases List.mem_singleton.1 h
      exact length_groups_find hfound

/-! ### Matches at their places -/

/-- Segments as matches at their places; the last match ended at `last`. -/
def placesFrom (last : Nat) : List Segment → List Match
  | [] => []
  | m :: segments =>
    let start := last + m.before.length
    let stop := start + m.whole.length
    ⟨start, stop, m.groups⟩ :: placesFrom stop segments

/-- The matches in a text, from left to right. -/
def matchesIn (r : Regex) (text : List Char) : List Match :=
  placesFrom 0 (r.segments text).1

theorem length_append_text (front : List Char) (m : Segment) :
    (front ++ m.text).length = (front ++ m.before).length + m.whole.length := by
  simp only [Segment.text, List.length_append, Nat.add_assoc]

/-- The places behind a front are those of a match and of what follows it. -/
theorem placesFrom_cons (front : List Char) (m : Segment) (segments : List Segment) :
    placesFrom front.length (m :: segments) =
      ⟨(front ++ m.before).length, (front ++ m.text).length, m.groups⟩ ::
        placesFrom (front ++ m.text).length segments := by
  rw [length_append_text, List.length_append, placesFrom]

/-- A text whose segments begin behind a front. -/
theorem append_segments (front : List Char) (m : Segment) (segments : List Segment)
    (tail : List Char) :
    front ++ ((m :: segments).flatMap Segment.text ++ tail) =
        (front ++ m.text) ++ (segments.flatMap Segment.text ++ tail) ∧
      (front ++ m.text) ++ (segments.flatMap Segment.text ++ tail) =
        (front ++ m.before) ++ (m.whole ++ (segments.flatMap Segment.text ++ tail)) := by
  simp only [List.flatMap_cons, Segment.text, List.append_assoc, and_self]

/-- What stands at the places is what matched. -/
theorem map_placesFrom {α : Type} (f : List Char → List (Option (List Char)) → α)
    (front : List Char) (segments : List Segment) (tail : List Char) :
    (placesFrom front.length segments).map (fun m =>
        f (slice (front ++ (segments.flatMap Segment.text ++ tail)) m.start m.stop) m.groups) =
      segments.map fun m => f m.whole m.groups := by
  induction segments generalizing front with
  | nil => rfl
  | cons m segments ih =>
    obtain ⟨hrest, hwhole⟩ := append_segments front m segments tail
    rw [placesFrom_cons, List.map_cons, hrest, ih, hwhole, length_append_text, slice_append,
      List.map_cons]

/-- The slices between the places are the texts in front of the matches. -/
theorem splice?_placesFrom (front : List Char) (segments : List Segment) (tail : List Char)
    {images : List (List Char)} (h : images.length = segments.length) :
    splice? (front ++ (segments.flatMap Segment.text ++ tail)) front.length
        ((placesFrom front.length segments).zip images) =
      some ((segments.zip images).flatMap (fun (m, image) => m.before ++ image) ++ tail) := by
  induction segments generalizing front images with
  | nil =>
    have hpart := part?_append front tail []
    rw [List.append_nil] at hpart
    show part? (front ++ tail) front.length (front ++ tail).length = some tail
    rw [List.length_append, hpart]
  | cons m segments ih =>
    cases images with
    | nil => cases h
    | cons image images =>
      obtain ⟨hrest, hwhole⟩ := append_segments front m segments tail
      have hbefore : part? (front ++ m.text ++ (segments.flatMap Segment.text ++ tail))
          front.length (front ++ m.before).length = some m.before := by
        rw [hwhole, List.append_assoc, List.length_append]
        exact part?_append front m.before _
      -- behind the match the splice goes on from a longer front
      rw [placesFrom_cons, List.zip_cons_cons, splice?, hrest, hbefore,
        ih (front ++ m.text) (Nat.succ.inj h)]
      simp

/-- The images of matches can be put in their places. -/
theorem splice?_matchesIn (r : Regex) (text : List Char) {images : List (List Char)}
    (h : images.length = (r.segments text).1.length) :
    splice? text 0 ((r.matchesIn text).zip images) =
      some (((r.segments text).1.zip images).flatMap (fun (m, image) => m.before ++ image) ++
        (r.segments text).2) := by
  have hsplice := splice?_placesFrom [] (r.segments text).1 (r.segments text).2 h
  rwa [List.nil_append, flatMap_segments] at hsplice

end CommandTemplate.Regex
