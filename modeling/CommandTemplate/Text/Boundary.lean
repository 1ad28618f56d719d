import CommandTemplate.Text.NamedSet
import CommandTemplate.Text.Property.Letters
import CommandTemplate.Text.Property.Signs

/-!
The kinds of characters by which a text is cut into visible characters, words and sentences.

For each of the three ways of cutting there is a list of kinds with their names.  Characters
of no kind are not in any of its sets.
-/

namespace CommandTemplate.Text.Boundary

open Category Property

def carriageReturn : CodeSet := .ofChars ['\r']

def lineFeed : CodeSet := .ofChars ['\n']

def zeroWidthJoiner : CodeSet := .ofText "200d"

/-! ### Visible characters -/

/-- Control and format characters that stand alone. -/
def lone : CodeSet :=
  ([Category.format, lineSeparator, paragraphSeparator,
    defaultIgnorableCodePoint.inter unassigned].foldl CodeSet.union control).diff <| .ofText
    "a d 600-605 6dd 70f 890-891 8e2 200c-200d 110bd 110cd e0020-e007f"

/-- Marks that belong to the character behind them. -/
def leading : CodeSet :=
  prependedConcatenationMark.union <| .ofText
    "d4e 111c2-111c3 113d1 1193f 11941 11a3a 11a84-11a89 11d46 11f02"

/-- Marks with a width of their own that belong to the character in front of them. -/
def trailing : CodeSet :=
  ((spacingMark.diff graphemeExtend).union (.ofText "e33 eb3")).diff <| .ofText
    "102b-102c 1038 1062-1064 1067-106d 1083 1087-108c 108f 109a-109c 1a61 1a63-1a64 aa7b aa7d
    11720-11721"

def leadingConsonant : CodeSet := .ofText
  "1100-115f a960-a97c"

def vowel : CodeSet := .ofText
  "1160-11a7 d7b0-d7c6 16d63 16d67-16d6a"

def trailingConsonant : CodeSet := .ofText
  "11a8-11ff d7cb-d7fb"

/-- The syllables of a consonant and a vowel. -/
def openSyllable : CodeSet := .ofText "ac00-d788/1c"

/-- The syllables with a consonant at the end. -/
def closedSyllable : CodeSet := (CodeSet.ofText "ac00-d7a3").diff openSyllable

/-- The kinds of characters within visible characters. -/
def grapheme : List NamedSet :=
  [⟨["cn", "control"], lone⟩, ⟨["cr"], carriageReturn⟩, ⟨["lf"], lineFeed⟩,
    ⟨["ex", "extend"], graphemeExtend.union emojiModifier⟩, ⟨["pp", "prepend"], leading⟩,
    ⟨["sm", "spacingmark"], trailing⟩, ⟨["ri", "regionalindicator"], regionalIndicator⟩,
    ⟨["zwj"], zeroWidthJoiner⟩, ⟨["l"], leadingConsonant⟩, ⟨["v"], vowel⟩,
    ⟨["t"], trailingConsonant⟩, ⟨["lv"], openSyllable⟩, ⟨["lvt"], closedSyllable⟩]

/-! ### Words -/

/-- Marks that belong to the word in front of them. -/
def wordMark : CodeSet :=
  (graphemeExtend.union spacingMark).union emojiModifier

def hebrewLetter : CodeSet := .ofText
  "5d0-5ea 5ef-5f2 fb1d fb1f-fb28 fb2a-fb36 fb38-fb3c fb3e fb40-fb41 fb43-fb44 fb46-fb4f"

def hiragana : CodeSet := .ofText
  "3041-3096 309d-309f 1b001-1b11f 1b132 1b150-1b152 1f200"

def katakana : CodeSet := .ofText
  "3031-3035 309b-309c 30a0-30fa 30fc-30ff 31f0-31ff 32d0-32fe 3300-3357 ff66-ff9d 1aff0-1aff3
  1aff5-1affb 1affd-1affe 1b000 1b120-1b122 1b155 1b164-1b167"

/-- Letters of scripts that set the words off by blanks. -/
def wordLetter : CodeSet :=
  (([ideographic, wordMark, hiragana, katakana, hebrewLetter].foldl
    CodeSet.diff alphabetic).union <| .ofText
    "2c2-2c5 2d2-2d7 2de-2df 2e5-2eb 2ed 2ef-2ff 55a-55c 55e 58a 5f3 70f a708-a716 a720-a721
    a789-a78a ab5b").diff <| .ofText
    "e01-e30 e32-e33 e40-e46 e81-e82 e84 e86-e8a e8c-ea3 ea5 ea7-eb0 eb2-eb3 ebd ec0-ec4 ec6
    edc-edf 1000-102a 103f 1050-1055 105a-105d 1061 1065-1066 106e-1070 1075-1081 108e 1780-17b3
    17d7 17dc 1950-196d 1970-1974 1980-19ab 19b0-19c9 1a20-1a54 1aa7 a9e0-a9e4 a9e6-a9ef
    a9fa-a9fe aa60-aa76 aa7a aa7e-aaaf aab1 aab5-aab6 aab9-aabd aac0 aac2 aadb-aadd 11700-1171a
    11740-11746"

def numeric : CodeSet :=
  decimalNumber.union <| .ofText
    "600-605 66b 6dd 890-891 8e2 19da 110bd 110cd"

/-- Signs that join words and numbers. -/
def connector : CodeSet := .ofText
  "5f 202f 203f-2040 2054 fe33-fe34 fe4d-fe4f ff3f"

def wordFormat : CodeSet :=
  Category.format.diff <| .ofText
    "600-605 6dd 70f 890-891 8e2 200b-200d 110bd 110cd e0020-e007f"

/-- Signs that may stand between letters. -/
def midLetter : CodeSet := .ofText
  "3a b7 387 55f 5f4 2027 fe13 fe55 ff1a"

/-- Signs that may stand between digits. -/
def midNumber : CodeSet := .ofText
  "2c 3b 37e 589 60c-60d 66c 7f8 2044 fe50 fe54 ff0c ff1b"

/-- Signs that may stand between letters and between digits. -/
def midBoth : CodeSet := .ofText
  "2e 2018-2019 2024 fe52 ff07 ff0e"

def newline : CodeSet := .ofText
  "b-c 85 2028-2029"

def wordSpace : CodeSet := .ofText
  "20 1680 2000-2006 2008-200a 205f 3000"

/-- The kinds of characters within words. -/
def word : List NamedSet :=
  [⟨["le", "aletter"], wordLetter⟩, ⟨["cr"], carriageReturn⟩, ⟨["lf"], lineFeed⟩,
    ⟨["dq", "doublequote"], .ofText "22"⟩, ⟨["sq", "singlequote"], .ofText "27"⟩,
    ⟨["extend"], wordMark⟩, ⟨["ex", "extendnumlet"], connector⟩, ⟨["fo", "format"], wordFormat⟩,
    ⟨["hl", "hebrewletter"], hebrewLetter⟩, ⟨["ka", "katakana"], katakana⟩,
    ⟨["ml", "midletter"], midLetter⟩, ⟨["mn", "midnum"], midNumber⟩,
    ⟨["mb", "midnumlet"], midBoth⟩, ⟨["nl", "newline"], newline⟩, ⟨["nu", "numeric"], numeric⟩,
    ⟨["ri", "regionalindicator"], regionalIndicator⟩, ⟨["wsegspace"], wordSpace⟩,
    ⟨["zwj"], zeroWidthJoiner⟩]

/-! ### Sentences -/

/-- Marks that belong to the sentence in front of them. -/
def sentenceMark : CodeSet :=
  (graphemeExtend.union spacingMark).union zeroWidthJoiner

def lower : CodeSet :=
  lowercase.diff <| .ofText
    "345 10d0-10fa 10fd-10ff"

def upper : CodeSet :=
  (uppercase.union titlecaseLetter).diff <| .ofText
    "1c90-1cba 1cbd-1cbf"

/-- Letters without case. -/
def plainLetter : CodeSet :=
  ([lower, upper, sentenceMark].foldl CodeSet.diff alphabetic).union <| .ofText "5f3"

/-- Signs that may end a sentence or stand inside a number. -/
def fullStop : CodeSet := .ofText
  "2e 2024 fe52 ff0e"

/-- Brackets and quotation marks. -/
def closing : CodeSet :=
  ([closePunctuation, initialPunctuation, finalPunctuation, quotationMark, .ofText
    "275b-2760 2e00-2e01 2e06-2e08 2e0b 1f676-1f678"].foldl CodeSet.union
    openPunctuation).diff <| .ofText "ff02 ff07"

/-- Signs behind which a sentence goes on. -/
def continuing : CodeSet := .ofText
  "2c-2d 3a-3b 37e 55d 60c-60d 7f8 1802 1808 2013-2014 3001 fe10-fe11 fe13-fe14 fe31-fe32
  fe50-fe51 fe54-fe55 fe58 fe63 ff0c-ff0d ff1a-ff1b ff64"

def sentenceFormat : CodeSet :=
  Category.format.diff <| .ofText
    "600-605 6dd 890-891 8e2 200c-200d 110bd 110cd e0020-e007f"

def separator : CodeSet := .ofText
  "85 2028-2029"

/-- The kinds of characters within sentences. -/
def sentence : List NamedSet :=
  [⟨["at", "aterm"], fullStop⟩, ⟨["cl", "close"], closing⟩, ⟨["cr"], carriageReturn⟩,
    ⟨["lf"], lineFeed⟩, ⟨["ex", "extend"], sentenceMark⟩, ⟨["fo", "format"], sentenceFormat⟩,
    ⟨["lo", "lower"], lower⟩, ⟨["up", "upper"], upper⟩, ⟨["le", "oletter"], plainLetter⟩,
    ⟨["nu", "numeric"], numeric.union (.ofText "66c")⟩, ⟨["sc", "scontinue"], continuing⟩,
    ⟨["se", "sep"], separator⟩, ⟨["sp"], whiteSpace.diff (.ofText "a d 85 2028-2029")⟩,
    ⟨["st", "sterm"], sentenceTerminal.diff fullStop⟩]

end CommandTemplate.Text.Boundary
