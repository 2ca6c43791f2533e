/-
Blank characters (the Unicode property White_Space), texts cut free of blanks at both ends, texts
cut at a separator, and lists written as one text.
-/
namespace Startup.Text

/-- Whether a code point lies in one of the closed ranges. -/
def inRanges (ranges : List (Nat × Nat)) (n : Nat) : Bool :=
  ranges.any fun r => r.1 ≤ n && n ≤ r.2

/-- The property White_Space. -/
def blankRanges : List (Nat × Nat) := [
  (9, 13), (32, 32), (133, 133), (160, 160), (5760, 5760), (8192, 8202), (8232, 8233),
  (8239, 8239), (8287, 8287), (12288, 12288)]

def isBlank (c : Char) : Bool := inRanges blankRanges c.toNat

/-! ## Trimming -/

/-- The characters without those at the end that satisfy `p`. -/
def dropEnd (p : Char → Bool) (cs : List Char) : List Char :=
  (cs.reverse.dropWhile p).reverse

/-- The characters without the blanks at both ends. -/
def trimBlanks (cs : List Char) : List Char := dropEnd isBlank (cs.dropWhile isBlank)

def trim (s : String) : String := .ofList (trimBlanks s.toList)

/-! ## Separators -/

/-- The pieces between the separators: one more than there are separators. -/
def pieces (isSeparator : Char → Bool) : List Char → List (List Char)
  | [] => [[]]
  | c :: rest =>
    if isSeparator c then [] :: pieces isSeparator rest
    else match pieces isSeparator rest with
      | [] => [[c]]
      | piece :: more => (c :: piece) :: more

/-- The items of a list written with commas: blanks around an item do not count, and neither do
blank items. -/
def commaItems (s : String) : List String :=
  ((pieces (· == ',') s.toList).map trimBlanks).filter (!·.isEmpty) |>.map .ofList

/-- Whether the text begins with `start`. -/
def startsWith (start s : String) : Bool := start.toList.isPrefixOf s.toList

/-- What follows `start`, if the text begins with it. -/
def after? (start s : String) : Option String :=
  if startsWith start s then some (.ofList (s.toList.drop start.toList.length)) else none

def endsWith (s : String) (c : Char) : Bool := s.toList.getLast? == some c

end Startup.Text
