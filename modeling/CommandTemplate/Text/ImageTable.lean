import CommandTemplate.Text.CodeSet

/-!
Tables that give characters an image of one or more characters.

A table text is a list of blocks.  A block opens with a code point and a colon; the images of
this code point and of those after it follow, one word each.  `41.300` is an image of two
characters, `61-7a` stands for the images 61, 62, ..., 7a of as many code points, and `20*3`
for three times the same image.  `imageIn?` looks a character up, and
`sourceIn?` finds the character that has an image.
-/

namespace CommandTemplate.Text

/-- The images of code points that follow each other. -/
structure ImageBlock where
  first : Nat
  images : Array (List Nat)
  deriving Repr

namespace ImageBlock

/-- The code points that a word separates by dots. -/
def imageOfWord? (word : List Char) : Option (List Nat) :=
  (word.splitOn '.').mapM readHex?

/-- The images that a word stands for. -/
def imagesOfWord? (word : List Char) : Option (List (List Nat)) :=
  match word.splitOn '*' with
  | [image, count] => do return List.replicate (← readHex? count) (← imageOfWord? image)
  | _ =>
    match word.splitOn '-' with
    | [first, last] => do
      return (Span.toList ⟨← readHex? first, ← readHex? last, 1⟩).map ([·])
    | _ => (imageOfWord? word).map ([·])

/-- The code point at which a word opens a block. -/
def startOfWord? (word : List Char) : Option Nat :=
  match word.splitOn ':' with
  | [start, []] => readHex? start
  | _ => none

/-- Puts a word in front of the images behind it and of the blocks after these. -/
def addWord (word : List Char) (state : List (List Nat) × List ImageBlock) :
    List (List Nat) × List ImageBlock :=
  match startOfWord? word with
  | some first => ([], ⟨first, state.1.toArray⟩ :: state.2)
  | none => (((imagesOfWord? word).getD []) ++ state.1, state.2)

/-- The blocks that a table text writes. -/
def ofText (text : String) : List ImageBlock :=
  ((tableWords text).foldr addWord ([], [])).2

/-- The image of a code point in a block. -/
def image? (block : ImageBlock) (n : Nat) : Option (List Nat) :=
  if block.first ≤ n then block.images[n - block.first]? else none

/-- The first code point of a block with the given image. -/
def source? (block : ImageBlock) (image : List Nat) : Option Nat :=
  (block.images.findIdx? (· == image)).map (block.first + ·)

end ImageBlock

/-- The image of a character in a table. -/
def imageIn? (table : List ImageBlock) (c : Char) : Option (List Char) :=
  (table.findSome? (·.image? c.toNat)).map (·.map Char.ofNat)

/-- The character that a table gives an image. -/
def sourceIn? (table : List ImageBlock) (image : List Char) : Option Char :=
  (table.findSome? (·.source? (image.map Char.toNat))).map Char.ofNat

end CommandTemplate.Text
