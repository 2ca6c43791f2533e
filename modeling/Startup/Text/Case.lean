/-
Upper and lower case. The full mappings of Unicode, where one character may give several and a
capital sigma at the end of a word gives its final form, and equality up to the case of ASCII
letters.
-/
import Startup.Text.Blank
import Startup.Text.CaseTable

namespace Startup.Text

/-! ## ASCII -/

/-- The lower-case form of an ASCII capital; any other character stays. -/
def asciiLower (c : Char) : Char :=
  if 'A' ≤ c ∧ c ≤ 'Z' then .ofNat (c.toNat + 32) else c

/-- The upper-case form of an ASCII small letter; any other character stays. -/
def asciiUpper (c : Char) : Char :=
  if 'a' ≤ c ∧ c ≤ 'z' then .ofNat (c.toNat - 32) else c

/-- Equality up to the case of ASCII letters. -/
def sameUpToAsciiCase (s t : String) : Bool :=
  s.toList.map asciiLower == t.toList.map asciiLower

/-! ## Full mappings -/

def CaseRun.holds (run : CaseRun) (n : Nat) : Bool :=
  run.first ≤ n && n ≤ run.last && (n - run.first) % run.step == 0

/-- The image of a character under a mapping given by its sequences and its runs. -/
def mapCase (sequences : List (Nat × List Nat)) (runs : List CaseRun) (c : Char) : List Char :=
  match sequences.find? (·.1 == c.toNat) with
  | some (_, codes) => codes.map .ofNat
  | none =>
    match runs.find? (·.holds c.toNat) with
    | some run => [.ofNat (c.toNat + run.shift).toNat]
    | none => [c]

def lowerChar (c : Char) : List Char :=
  if c.toNat < 128 then [asciiLower c] else mapCase lowerSequences lowerRuns c

def upperChar (c : Char) : List Char :=
  if c.toNat < 128 then [asciiUpper c] else mapCase upperSequences upperRuns c

/-- Whether the first character that is no mark is a cased letter. -/
def meetsCased (cs : List Char) : Bool :=
  match cs.dropWhile fun c => inRanges caseIgnorableRanges c.toNat with
  | [] => false
  | c :: _ => inRanges casedRanges c.toNat

/-- The lower-case form of `cs` where `before`, nearest first, stands in front of it. -/
def lowerFrom (before : List Char) : List Char → List Char
  | [] => []
  | c :: rest =>
    (if c = 'Σ' then [if meetsCased before && !meetsCased rest then 'ς' else 'σ']
      else lowerChar c) ++ lowerFrom (c :: before) rest

def toLower (s : String) : String := .ofList (lowerFrom [] s.toList)

def toUpper (s : String) : String := .ofList (s.toList.flatMap upperChar)

end Startup.Text
