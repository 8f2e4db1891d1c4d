/-! # Blank characters, trimming and letter case

Texts are read as lists of characters. White space is the Unicode property White_Space, so
that no-break and ideographic spaces are trimmed while zero-width ones are kept; letter case
is folded for the ASCII letters only.
-/
namespace Passbook.Text

/-- The characters with the Unicode property White_Space. -/
def isBlank (c : Char) : Bool :=
  let n := c.toNat
  (0x9 ≤ n && n ≤ 0xD) || n == 0x20 || n == 0x85 || n == 0xA0 || n == 0x1680 ||
    (0x2000 ≤ n && n ≤ 0x200A) || n == 0x2028 || n == 0x2029 || n == 0x202F ||
    n == 0x205F || n == 0x3000

def trimStart (cs : List Char) : List Char := cs.dropWhile isBlank

def trimEnd (cs : List Char) : List Char := (cs.reverse.dropWhile isBlank).reverse

def trim (cs : List Char) : List Char := trimEnd (trimStart cs)

/-- Only the letters A to Z change. -/
def lower (cs : List Char) : List Char := cs.map Char.toLower

/-- A keyword is compared after trimming and folding its case. -/
def keyword (s : String) : String := String.ofList (lower (trim s.toList))

def isBlankText (s : String) : Bool := s.toList.all isBlank

def splitFirst (sep : Char) (cs : List Char) : Option (List Char × List Char) :=
  if sep ∈ cs then some (cs.takeWhile (· != sep), (cs.dropWhile (· != sep)).drop 1) else none

def join (sep : String) (texts : List String) : String := String.intercalate sep texts

theorem trimStart_of_not_blank {c : Char} {cs : List Char} (h : isBlank c = false) :
    trimStart (c :: cs) = c :: cs := by
  simp [trimStart, h]

end Passbook.Text
