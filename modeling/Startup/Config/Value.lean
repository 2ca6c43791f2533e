/-
Values of properties: texts, whole numbers, floating-point numbers, truth values, lists and tables,
and the readings of a value as a text, a number or a truth value.
-/
import Startup.Number.Shortest
import Startup.Text.Case

namespace Startup

inductive Value where
  | text (s : String)
  | int (n : Int64)
  | float (x : Number.Double)
  | bool (b : Bool)
  | list (items : List Value)
  | table (entries : List (String × Value))
  deriving Inhabited

namespace Value

/-! ## Readings -/

def asText? : Value → Option String
  | .text s => some s
  | _ => none

/-- A whole number, or a text that is one up to blanks around it. -/
def asInt? : Value → Option Int64
  | .int n => some n
  | .text s => Number.int64? (Text.trim s)
  | _ => none

/-- The truth value that a word stands for, in any case and with blanks around it. -/
def truth? (s : String) : Option Bool :=
  let word := Text.toLower (Text.trim s)
  if word == "true" || word == "yes" || word == "1" then some true
  else if word == "false" || word == "no" || word == "0" then some false
  else none

/-- A truth value, one of the numbers 1 and 0, or a word for it. -/
def asBool? : Value → Option Bool
  | .bool b => some b
  | .int n => if n = 1 then some true else if n = 0 then some false else none
  | .text s => truth? s
  | _ => none

/-- The value as a text: a text as it is, numbers in decimal, and of lists and tables the size. -/
def display : Value → String
  | .text s => s
  | .int n => Number.decimal n.toInt
  | .float x => x.text
  | .bool b => if b then "true" else "false"
  | .list items => "[" ++ Number.decimal items.length ++ " item(s)]"
  | .table entries => "\x7b" ++ Number.decimal entries.length ++ " key(s)\x7d"

/-- A list of texts: those among the items of a list, or the items that a text separates by
commas. -/
def asTexts? : Value → Option (List String)
  | .list items => some (items.filterMap asText?)
  | .text s => some (Text.commaItems s)
  | _ => none

/-! ## Equality -/

mutual
/-- Equality where a NaN differs from itself. Tables are compared entry by entry in order. -/
def same : Value → Value → Bool
  | .text s, .text t => s == t
  | .int m, .int n => m == n
  | .float x, .float y => x.sameNumber y
  | .bool a, .bool b => a == b
  | .list xs, .list ys => sameItems xs ys
  | .table xs, .table ys => sameEntries xs ys
  | _, _ => false

def sameItems : List Value → List Value → Bool
  | [], [] => true
  | x :: xs, y :: ys => x.same y && sameItems xs ys
  | _, _ => false

def sameEntries : List (String × Value) → List (String × Value) → Bool
  | [], [] => true
  | (k, x) :: xs, (l, y) :: ys => k == l && x.same y && sameEntries xs ys
  | _, _ => false
end

end Value

end Startup
