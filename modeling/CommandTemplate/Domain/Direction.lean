import CommandTemplate.Text.Recent

/-!
Labels in scripts that run from right to left.

In a domain with a character of such a script every label must keep its order when it is shown
next to the others (`keepsOrder`).  It begins with a letter; what comes after depends on the
direction of this letter, and at the end a letter or a number stands, up to marks.
-/

namespace CommandTemplate.Domain

open Text

/-- How a character takes part in the order of what is shown. -/
inductive Direction where
  /-- A letter of a script from left to right. -/
  | leftToRight
  /-- A letter of a script from right to left other than Arabic. -/
  | rightToLeft
  /-- An Arabic letter. -/
  | arabic
  /-- A European digit. -/
  | digit
  /-- An Arabic digit. -/
  | arabicDigit
  /-- A sign without a direction. -/
  | neutral
  /-- A mark, which follows the character in front of it. -/
  | mark
  deriving Repr, DecidableEq

namespace Direction

def rightToLeftLetters : CodeSet := .ofText
  "590 5be 5c0 5c3 5c6 5c8-5ff 7c0-7ea 7f4-7f5 7fa-7fc 7fe-815 81a 824 828 82e-858 85c-85f 200f
  fb1d fb1f-fb28 fb2a-fb4f 10800-1091e 10920-10a00 10a04 10a07-10a0b 10a10-10a37 10a3b-10a3e
  10a40-10ae4 10ae7-10b38 10b40-10cff 10d4a-10d68 10d6f-10e5f 10e7f-10eaa 10ead-10ebf 10f00-10f2f
  10f70-10f81 10f86-10fff 1e800-1e8cf 1e8d7-1e943 1e94b-1ec6f 1ecc0-1ecff 1ed50-1edff 1ef00-1efff"

def arabicLetters : CodeSet := .ofText
  "608 60b 60d 61b-64a 66d-66f 671-6d5 6e5-6e6 6ee-6ef 6fa-710 712-72f 74b-7a5 7b1-7bf 860-88f
  892-896 8a0-8c9 fb50-fbc2 fbd3-fd3d fd50-fd8f fd92-fdc7 fdf0-fdfc fe70-fefe 10d00-10d23
  10d28-10d2f 10d3a-10d3f 10ec0-10ecf 10ed9-10ef9 10f30-10f45 10f51-10f6f 1ec70-1ecbf 1ed00-1ed4f
  1ee00-1eeef 1eef2-1eeff"

def digits : CodeSet := .ofText
  "30-39 b2-b3 b9 6f0-6f9 2070 2074-2079 2080-2089 2488-249b ff10-ff19 102e1-102fb 1ccf0-1ccf9
  1d7ce-1d7ff 1f100-1f10a 1fbf0-1fbf9"

def arabicDigits : CodeSet := .ofText
  "600-605 660-669 66b-66c 6dd 890-891 8e2 10d30-10d39 10d40-10d49 10e60-10e7e"

def neutrals : CodeSet := .ofText
  "0-8 e-1b 21-2f 3a-40 5b-60 7b-84 86-a9 ab-b1 b4 b6-b8 bb-bf d7 f7 2b9-2ba 2c2-2cf 2d2-2df
  2e5-2ed 2ef-2ff 374-375 37e 384-385 387 3f6 58a 58d-58f 606-607 609-60a 60c 60e-60f 66a 6de 6e9
  7f6-7f9 9f2-9f3 9fb af1 bf3-bfa c78-c7e e3f f3a-f3d 1390-1399 1400 169b-169c 17db 17f0-17f9
  1800-180a 180e 1940 1944-1945 19de-19ff 1fbd 1fbf-1fc1 1fcd-1fcf 1fdd-1fdf 1fed-1fef 1ffd-1ffe
  200b-200d 2010-2027 202f-205e 2060-2065 206a-206f 207a-207e 208a-208e 20a0-20cf 2100-2101
  2103-2106 2108-2109 2114 2116-2118 211e-2123 2125-2129/2 212e 213a-213b 2140-2144 214a-214d
  2150-215f 2189-218b 2190-2335 237b-2394 2396-2429 2440-244a 2460-2487 24ea-26ab 26ad-27ff
  2900-2b73 2b76-2bff 2ce5-2cea 2cf9-2cff 2e00-2e5d 2e80-2e99 2e9b-2ef3 2f00-2fd5 2ff0-2fff
  3001-3004 3008-3020 3030 3036-3037 303d-303f 309b-309c 30a0 30fb 31c0-31e5 31ef 321d-321e
  3250-325f 327c-327e 32b1-32bf 32cc-32cf 3377-337a 33de-33df 33ff 4dc0-4dff a490-a4c6 a60d-a60f
  a673 a67e-a67f a700-a721 a788 a828-a82b a838-a839 a874-a877 ab6a-ab6b fb29 fbc3-fbd2 fd3e-fd4f
  fd90-fd91 fdc8-fdef fdfd-fdff fe10-fe19 fe30-fe52 fe54-fe66 fe68-fe6b feff ff01-ff0f ff1a-ff20
  ff3b-ff40 ff5b-ff65 ffe0-ffe6 ffe8-ffee fff0-ffff 10101 10140-1018c 10190-1019c 101a0 1091f
  10b39-10b3f 10d6e 10ed0-10ed8 11052-11065 11660-1166c 11fd5-11ff1 16fe2 1bca0-1bca3 1cc00-1ccd5
  1ccfa-1ccfc 1cd00-1ceb3 1ceba-1ced0 1cee0-1cef0 1d173-1d17a 1d1e9-1d1ea 1d200-1d241 1d245
  1d300-1d356 1d6c1 1d6db 1d6fb 1d715 1d735 1d74f 1d76f 1d789 1d7a9 1d7c3 1e2ff 1eef0-1eef1
  1f000-1f02b 1f030-1f093 1f0a0-1f0ae 1f0b1-1f0bf 1f0c1-1f0cf 1f0d1-1f0f5 1f10b-1f10f 1f12f
  1f16a-1f16f 1f1ad 1f260-1f265 1f300-1f6d8 1f6dc-1f6ec 1f6f0-1f6fc 1f700-1f7d9 1f7e0-1f7eb 1f7f0
  1f800-1f80b 1f810-1f847 1f850-1f859 1f860-1f887 1f890-1f8ad 1f8b0-1f8bb 1f8c0-1f8c1 1f8d0-1f8d8
  1f900-1fa57 1fa60-1fa6d 1fa70-1fa7c 1fa80-1fa8a 1fa8e-1fac6 1fac8 1facd-1fadc 1fadf-1faea
  1faef-1faf8 1fb00-1fb92 1fb94-1fbef 1fbfa 1fffe-1ffff 2fffe-2ffff 3fffe-3ffff 4fffe-4ffff
  5fffe-5ffff 6fffe-6ffff 7fffe-7ffff 8fffe-8ffff 9fffe-9ffff afffe-affff bfffe-bffff cfffe-cffff
  dfffe-e00ff e01f0-e0fff efffe-effff ffffe-fffff 10fffe-10ffff"

/-- Marks that count as letters of their script. -/
def letterMarks : CodeSet := .ofText
  "cbf cc6 11a07-11a08 11c3f"

/-- The direction of a character. -/
def ofChar (c : Char) : Direction :=
  if rightToLeftLetters.has c then .rightToLeft
  else if arabicLetters.has c then .arabic
  else if digits.has c then .digit
  else if arabicDigits.has c then .arabicDigit
  else if neutrals.has c then .neutral
  else if Recent.widthless.has c && !letterMarks.has c then .mark
  else .leftToRight

/-- Does the direction show that a script runs from right to left? -/
def isRightToLeft (d : Direction) : Bool :=
  d = .rightToLeft || d = .arabic || d = .arabicDigit

end Direction

open Direction in
/-- May the directions follow a letter from left to right? -/
def fitsLeftToRight (rest : List Direction) : Bool :=
  let body := (rest.reverse.dropWhile (· = .mark))
  body.all (fun d => d = .leftToRight || d = .digit || d = .neutral || d = .mark)
    && body.head?.all fun d => d = .leftToRight || d = .digit

open Direction in
/-- May the directions follow a letter from right to left?  Digits of one kind only may. -/
def fitsRightToLeft (rest : List Direction) : Bool :=
  let body := (rest.reverse.dropWhile (· = .mark))
  body.all (· ≠ .leftToRight)
    && !(body.contains .digit && body.contains .arabicDigit)
    && body.head?.all (· ≠ .neutral)

/-- Does a label keep its order next to others? -/
def labelKeepsOrder (label : List Char) : Bool :=
  match label.map Direction.ofChar with
  | [] => true
  | first :: rest =>
    match first with
    | .leftToRight => fitsLeftToRight rest
    | .rightToLeft | .arabic => fitsRightToLeft rest
    | _ => false

/-- Do the labels of a domain keep their order?  They do if all scripts run from left to
right. -/
def keepsOrder (labels : List (List Char)) : Bool :=
  labels.all labelKeepsOrder
    || !(labels.any (·.any fun c => (Direction.ofChar c).isRightToLeft))

end CommandTemplate.Domain
