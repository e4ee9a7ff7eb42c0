/-!
# White space

Texts come from sheets and configuration files of any script, so white space is the Unicode set of
characters that separate words, and trimming, blankness and the cutting of words all use it. The
zero-width space, the byte order mark and the Mongolian vowel separator are not white space.
-/

namespace Scorecard.Text

/-- White space: the ASCII blanks, the four information separators, and the Unicode spaces and
line breaks. -/
def isSpace (c : Char) : Bool :=
  let n := c.toNat
  (9 ≤ n && n ≤ 13) || (28 ≤ n && n ≤ 32) || n == 0x85 || n == 0xA0 || n == 0x1680 ||
    (0x2000 ≤ n && n ≤ 0x200A) || n == 0x2028 || n == 0x2029 || n == 0x202F || n == 0x205F ||
    n == 0x3000

/-- The characters without the trailing ones that satisfy `p`. -/
def dropEndWhile (p : Char → Bool) (cs : List Char) : List Char :=
  (cs.reverse.dropWhile p).reverse

/-- The characters without those at either end that satisfy `p`. -/
def trimWhile (p : Char → Bool) (cs : List Char) : List Char :=
  dropEndWhile p (cs.dropWhile p)

/-- The characters without surrounding white space. -/
def trimmed (cs : List Char) : List Char :=
  trimWhile isSpace cs

/-- A text without surrounding white space. -/
def trim (s : String) : String :=
  String.ofList (trimmed s.toList)

/-- A text is blank if it holds nothing but white space. -/
def isBlank (s : String) : Bool :=
  s.toList.all isSpace

end Scorecard.Text
