/-
The lexical part of TOML: blanks and comments, keys, strings, numbers, dates and times.
-/
import Startup.Text.Blank
import Startup.Text.Reader
import Startup.Toml.Value

namespace Startup.Toml

open Startup.Text Startup.Text.Reader Startup.Number

/-! ## Blanks, line ends, comments -/

def isWhite (c : Char) : Bool := c == ' ' || c == '\t'

def blanks : Reader Unit := (fun _ => ()) <$> run isWhite

def lineEnd : Reader Unit := orElse (char '\n') (chars ['\r', '\n'])

/-- A character that may stand in a comment or a literal string: a tab, or anything but a control. -/
def isPlain (c : Char) : Bool := c == '\t' || (c.toNat ≥ 0x20 && c.toNat != 0x7F)

def comment : Reader Unit := do
  char '#'
  let _ ← run isPlain

/-- Blanks, line ends and comments, as they may stand between the items of an array. -/
def gap : Reader Unit := do
  let _ ← many (do
    let start ← run isWhite
    match ← peek with
    | some '#' => do comment; lineEnd
    | some '\n' | some '\r' => lineEnd
    | _ => if start.isEmpty then refuse else pure ())

/-- The end of a line behind a statement: blanks, perhaps a comment, and a line end or the end of
the document. -/
def restOfLine : Reader Unit := do
  blanks
  let _ ← maybe comment
  match ← peek with
  | none => pure ()
  | some _ => lineEnd

/-! ## Strings -/

def isHexDigit (c : Char) : Bool :=
  ('0' ≤ c && c ≤ '9') || ('a' ≤ c && c ≤ 'f') || ('A' ≤ c && c ≤ 'F')

def hexValue (c : Char) : Nat :=
  if c ≤ '9' then c.toNat - '0'.toNat
  else if c ≤ 'F' then c.toNat - 'A'.toNat + 10
  else c.toNat - 'a'.toNat + 10

/-- The number written by digits of the given base; an underscore does not count. -/
def inBase (base : Nat) (cs : List Char) : Nat :=
  cs.foldl (fun n c => if c == '_' then n else base * n + hexValue c) 0

/-- The character with this code point, unless it is half of a surrogate pair or out of range. -/
def scalar? (n : Nat) : Option Char :=
  if n.isValidChar then some (.ofNat n) else none

def escape : Reader Char := do
  char '\\'
  match ← one fun _ => true with
  | 'b' => pure '\x08'
  | 't' => pure '\t'
  | 'n' => pure '\n'
  | 'f' => pure '\x0c'
  | 'r' => pure '\r'
  | '"' => pure '"'
  | '\\' => pure '\\'
  | 'u' => mapping (fun cs => scalar? (inBase 16 cs)) (exactly isHexDigit 4)
  | 'U' => mapping (fun cs => scalar? (inBase 16 cs)) (exactly isHexDigit 8)
  | _ => refuse

def isBasic (c : Char) : Bool := isPlain c && c != '"' && c != '\\'

def isLiteral (c : Char) : Bool := isPlain c && c != '\''

/-- A string between double quotes on one line. -/
def basicString : Reader (List Char) := do
  char '"'
  let parts ← many (orElse (run1 isBasic) (List.singleton <$> escape))
  char '"'
  pure parts.flatten

/-- A string between single quotes on one line. -/
def literalString : Reader (List Char) := do
  char '\''
  let cs ← run isLiteral
  char '\''
  pure cs

/-- A backslash at the end of a line: it takes the blanks and line ends that follow with it. -/
def continuation : Reader (List Char) := do
  char '\\'
  blanks
  lineEnd
  let _ ← many (orElse ((fun _ => ()) <$> run1 isWhite) lineEnd)
  pure []

/-- One or two quotes that do not end the string, or the quotes before those that end it: a run of
`n` quotes holds `n` characters if it is short, and else `n - 3`. -/
def quotesInside (quote : Char) : Reader (List Char) := do
  let cs ← ahead 6
  let n := (cs.takeWhile (· == quote)).length
  if n = 0 ∨ n = 3 ∨ n > 5 then refuse
  else
    let inside := if n < 3 then n else n - 3
    exactly (· == quote) inside

/-- A string over several lines, between three quotes on each side. A line end right after the
opening quotes does not belong to it, and every line end counts as one newline. -/
def multiLine (quote : Char) (part : Reader (List Char)) : Reader (List Char) := do
  chars [quote, quote, quote]
  let _ ← maybe lineEnd
  let parts ← many (orElse part
    (orElse ((fun _ => ['\n']) <$> lineEnd) (quotesInside quote)))
  chars [quote, quote, quote]
  pure parts.flatten

def multiLineBasic : Reader (List Char) :=
  multiLine '"' (orElse (run1 isBasic) (orElse continuation (List.singleton <$> escape)))

def multiLineLiteral : Reader (List Char) := multiLine '\'' (run1 isLiteral)

def string : Reader String := do
  let start ← ahead 3
  let cs ←
    if start == ['"', '"', '"'] then multiLineBasic
    else if start == ['\'', '\'', '\''] then multiLineLiteral
    else if start.head? == some '"' then basicString
    else literalString
  pure (.ofList cs)

/-! ## Keys -/

def isBare (c : Char) : Bool :=
  ('a' ≤ c && c ≤ 'z') || ('A' ≤ c && c ≤ 'Z') || ('0' ≤ c && c ≤ '9') || c == '-' || c == '_'

def simpleKey : Reader String := do
  let cs ← match ← peek with
    | some '"' => basicString
    | some '\'' => literalString
    | _ => run1 isBare
  pure (.ofList cs)

/-- How deep keys and values may be nested. -/
def nestingLimit : Nat := 80

/-- A key, or several joined by points, fewer than the nesting limit. -/
def key : Reader (List String) :=
  whenever (·.length < nestingLimit)
    (separated1 (do blanks; let k ← simpleKey; blanks; pure k) (char '.'))

/-! ## Numbers -/

def isDigit (c : Char) : Bool := '0' ≤ c && c ≤ '9'

/-- Digits that satisfy `p`; an underscore may stand between two of them. -/
def digitRun (p : Char → Bool) : Reader (List Char) := do
  let first ← one p
  let more ← many (do
    let underscore ← maybe (char '_')
    let c ← one p
    pure (if underscore.isSome then ['_', c] else [c]))
  pure (first :: more.flatten)

def sign : Reader (Option Char) := maybe (one fun c => c == '+' || c == '-')

/-- A sign and a decimal whole number without leading zeros. -/
def decimalDigits : Reader (Bool × List Char) := do
  let mark ← sign
  let digits ← match ← peek with
    | some '0' => do char '0'; pure ['0']
    | _ => digitRun isDigit
  pure (mark == some '-', digits)

def based (letter : Char) (base : Nat) (p : Char → Bool) : Reader Int64 :=
  mapping (fun cs => toInt64? (inBase base cs)) (do chars ['0', letter]; digitRun p)

def integer : Reader Int64 := do
  match ← ahead 2 with
  | ['0', 'x'] => based 'x' 16 isHexDigit
  | ['0', 'o'] => based 'o' 8 fun c => '0' ≤ c && c ≤ '7'
  | ['0', 'b'] => based 'b' 2 fun c => c == '0' || c == '1'
  | _ =>
    let (negative, cs) ← decimalDigits
    mapping toInt64? (pure (if negative then -(inBase 10 cs : Int) else inBase 10 cs))

def exponentPart : Reader Int := do
  let _ ← one fun c => c == 'e' || c == 'E'
  let mark ← sign
  let cs ← digitRun isDigit
  pure (if mark == some '-' then -(inBase 10 cs : Int) else inBase 10 cs)

/-- A number with a point or an exponent. Positive numbers out of range are refused. -/
def decimalFloat : Reader Double := do
  let (negative, whole) ← decimalDigits
  let places ← maybe (do char '.'; digitRun isDigit)
  let exponent ← match places with
    | some _ => maybe exponentPart
    | none => some <$> exponentPart
  let places := (places.getD []).filter (· != '_')
  let x := Double.ofDecimal negative (inBase 10 (whole ++ places))
    (exponent.getD 0 - places.length)
  if x.isInfinite && !negative then refuse else pure x

/-- The named numbers, with an optional sign. -/
def namedFloat : Reader Double := do
  let mark ← sign
  orElse (do chars ['i', 'n', 'f']; pure (Double.infinity (mark == some '-')))
    (do chars ['n', 'a', 'n']; pure Double.nan)

def float : Reader Double := orElse decimalFloat namedFloat

/-! ## Dates and times -/

/-- A number of exactly `places` digits between `low` and `high`. -/
def field (places low high : Nat) : Reader Nat := do
  let n := inBase 10 (← exactly isDigit places)
  if low ≤ n && n ≤ high then pure n else refuse

def daysIn (year month : Nat) : Nat :=
  if month = 2 then
    if year % 4 = 0 ∧ (year % 100 ≠ 0 ∨ year % 400 = 0) then 29 else 28
  else if month = 4 ∨ month = 6 ∨ month = 9 ∨ month = 11 then 30
  else 31

/-- A day, shown as it is written. -/
def date : Reader (List Char) := do
  let year ← field 4 0 9999
  char '-'
  let month ← field 2 1 12
  char '-'
  let day ← field 2 1 31
  if day ≤ daysIn year month then
    pure (padded 4 year ++ '-' :: padded 2 month ++ '-' :: padded 2 day)
  else refuse

/-- A time of day, shown with as many decimal places as count, at most nine. -/
def time : Reader (List Char) := do
  let hour ← field 2 0 23
  char ':'
  let minute ← field 2 0 59
  char ':'
  let second ← field 2 0 60
  let places ← maybe (do char '.'; run1 isDigit)
  let places := dropEnd (· == '0') ((places.getD []).take 9)
  pure (padded 2 hour ++ ':' :: padded 2 minute ++ ':' :: padded 2 second ++
    if places.isEmpty then [] else '.' :: places)

/-- A distance from universal time. Its hours and minutes are shown, a zero with a plus sign. -/
def offset : Reader (List Char) :=
  orElse ((fun _ => ['Z']) <$> one fun c => c == 'Z' || c == 'z') (do
    let mark ← one fun c => c == '+' || c == '-'
    let hour ← field 2 0 23
    char ':'
    let minute ← field 2 0 59
    let mark := if hour = 0 ∧ minute = 0 then '+' else mark
    pure (mark :: padded 2 hour ++ ':' :: padded 2 minute))

/-- A day with or without a time of day behind it, or a time of day. -/
def datetime : Reader String := do
  let cs ← orElse
    (do
      let day ← date
      let rest ← maybe (do
        let _ ← one fun c => c == 'T' || c == 't' || c == ' '
        let clock ← time
        let distance ← maybe offset
        pure (clock ++ distance.getD []))
      pure (match rest with
        | some cs => day ++ 'T' :: cs
        | none => day))
    time
  pure (.ofList cs)

end Startup.Toml
