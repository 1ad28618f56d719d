import CommandTemplate.Calendar.Pattern

/-!
Patterns of dates in letters.

In a pattern such as `yyyy-MM-dd HH:mm` a run of one letter stands for a number or a name, and
its length tells how it is written.  Text in single quotes is copied, and two quotes are a
quote.  `letterPattern?` brings such a pattern into directives.
-/

namespace CommandTemplate.Calendar

/-- The directive for a run of `count` letters. -/
def letterDirective? (c : Char) (count : Nat) : Option String :=
  match c, count with
  | 'y', 2 | 'u', 2 => some "%y"
  | 'y', _ | 'u', _ => some "%Y"
  | 'M', 1 | 'L', 1 => some "%-m"
  | 'M', 2 | 'L', 2 => some "%m"
  | 'M', 3 | 'L', 3 => some "%b"
  | 'M', _ | 'L', _ => some "%B"
  | 'd', 1 => some "%-d"
  | 'd', _ => some "%d"
  | 'D', _ => some "%j"
  | 'E', count => some (if count ≤ 3 then "%a" else "%A")
  | 'a', _ => some "%p"
  | 'H', 1 => some "%-H"
  | 'H', _ => some "%H"
  | 'h', 1 => some "%-I"
  | 'h', _ => some "%I"
  | 'm', 1 => some "%-M"
  | 'm', _ => some "%M"
  | 's', 1 => some "%-S"
  | 's', _ => some "%S"
  | 'S', _ => some "%3f"
  | 'z', _ => some "%Z"
  | 'Z', _ => some "%z"
  | 'X', _ | 'x', _ => some "%:z"
  | _, _ => none

/-- A character that stands for itself. -/
def literalDirective (c : Char) : List Char :=
  if c = '%' then ['%', '%'] else [c]

/-- The rest of a pattern, which begins in quotes or outside of them, as directives. -/
def letterPatternFrom? (quoted : Bool) : List Char → Option (List Char)
  | [] => some []
  | '\'' :: '\'' :: s => (letterPatternFrom? quoted s).map ('\'' :: ·)
  | '\'' :: s => letterPatternFrom? (!quoted) s
  | c :: s =>
    if quoted || !c.isAlpha then (letterPatternFrom? quoted s).map (literalDirective c ++ ·)
    else do
      let directive ← letterDirective? c ((s.takeWhile (· == c)).length + 1)
      return directive.toList ++ (← letterPatternFrom? false (s.dropWhile (· == c)))
termination_by s => s.length
decreasing_by
  · simp only [List.length_cons]; omega
  · simp
  · simp
  · exact Nat.lt_succ_of_le (List.dropWhile_suffix (· == c)).length_le

/-- A pattern in letters as directives, unless it has a letter without a meaning. -/
def letterPattern? (pattern : List Char) : Option (List Char) :=
  letterPatternFrom? false pattern

end CommandTemplate.Calendar
