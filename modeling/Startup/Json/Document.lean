/-
JSON documents: the value a text describes, with nothing but blanks around it.
-/
import Startup.Json.Value
import Startup.Text.Reader

namespace Startup.Json.Document

open Startup.Text Startup.Text.Reader

def isSpace (c : Char) : Bool := c == ' ' || c == '\n' || c == '\t' || c == '\r'

def spaces : Reader Unit := (fun _ => ()) <$> run isSpace

/-! ## Strings -/

def hexDigit? (c : Char) : Option Nat :=
  if '0' ≤ c ∧ c ≤ '9' then some (c.toNat - '0'.toNat)
  else if 'a' ≤ c ∧ c ≤ 'f' then some (c.toNat - 'a'.toNat + 10)
  else if 'A' ≤ c ∧ c ≤ 'F' then some (c.toNat - 'A'.toNat + 10)
  else none

/-- The UTF-16 unit behind the mark of an escape. -/
def unit : Reader Nat := do
  let digits ← exactly (fun c => (hexDigit? c).isSome) 4
  pure (digits.foldl (fun n c => 16 * n + (hexDigit? c).getD 0) 0)

/-- What an item of a string stands for: characters, or a UTF-16 unit by its number. -/
inductive Piece where
  | chars (cs : List Char)
  | unit (n : Nat)

def escape : Reader Piece := do
  char '\\'
  let c ← one fun _ => true
  if c == '"' || c == '\\' || c == '/' then pure (.chars [c])
  else if c == 'b' then pure (.chars ['\x08'])
  else if c == 'f' then pure (.chars ['\x0c'])
  else if c == 'n' then pure (.chars ['\n'])
  else if c == 'r' then pure (.chars ['\r'])
  else if c == 't' then pure (.chars ['\t'])
  else if c == 'u' then Piece.unit <$> unit
  else refuse

/-- The text of the pieces, unless a half of a surrogate pair stands alone. -/
def join : List Piece → Option (List Char)
  | [] => some []
  | .chars cs :: rest => (join rest).map (cs ++ ·)
  | .unit high :: .unit low :: rest =>
    if 0xD800 ≤ high ∧ high < 0xDC00 then
      if 0xDC00 ≤ low ∧ low < 0xE000 then
        (join rest).map (.ofNat (0x10000 + (high - 0xD800) * 0x400 + (low - 0xDC00)) :: ·)
      else none
    else if 0xDC00 ≤ high ∧ high < 0xE000 then none
    else (join (.unit low :: rest)).map (.ofNat high :: ·)
  | .unit n :: rest =>
    if 0xD800 ≤ n ∧ n < 0xE000 then none else (join rest).map (.ofNat n :: ·)

def string : Reader (Option String) := do
  char '"'
  let pieces ← many (orElse
    (Piece.chars <$> run1 fun c => c.toNat ≥ 0x20 && c != '"' && c != '\\') escape)
  char '"'
  pure ((join pieces).map .ofList)

/-! ## Numbers -/

def isDigit (c : Char) : Bool := '0' ≤ c && c ≤ '9'

def number : Reader Json := do
  let minus ← maybe (char '-')
  let next ← peek
  let whole ← if next == some '0' then do char '0'; pure ['0'] else run1 isDigit
  let places ← maybe (do char '.'; run1 isDigit)
  let exponent ← maybe (do
    let _ ← one fun c => c == 'e' || c == 'E'
    let sign ← maybe (one fun c => c == '+' || c == '-')
    let digits ← run1 isDigit
    pure ('e' :: sign.toList ++ digits))
  let n := (Number.natural? whole).getD 0
  if places.isNone && exponent.isNone && !(minus.isSome && n == 0) then
    pure (.integer (if minus.isSome then -n else n))
  else
    let sign := if minus.isSome then ['-'] else []
    let point := match places with
      | some ds => '.' :: ds
      | none => []
    pure (.decimal (.ofList (sign ++ whole ++ point ++ exponent.getD [])))

/-! ## Values -/

/-- Items between two brackets, separated by commas. -/
def listOf {α : Type} (opening closing : Char) (item : Reader α) : Reader (List α) := do
  char opening
  spaces
  let items ← maybe (separated1 (do let a ← item; spaces; pure a) (do char ','; spaces))
  char closing
  pure (items.getD [])

/-- A value that nests arrays and objects at most `depth` deep. -/
def value : (depth : Nat) → Reader Json
  | 0 => refuse
  | depth + 1 => do
    let next ← peek
    if next == some '"' then Json.string <$> string
    else if next == some '[' then Json.array <$> listOf '[' ']' (value depth)
    else if next == some '\x7b' then
      Json.object <$> listOf '\x7b' '\x7d' (do
        let k ← string
        spaces
        char ':'
        spaces
        let v ← value depth
        pure (k, v))
    else if next == some 't' then do chars ['t', 'r', 'u', 'e']; pure (.bool true)
    else if next == some 'f' then do chars ['f', 'a', 'l', 's', 'e']; pure (.bool false)
    else if next == some 'n' then do chars ['n', 'u', 'l', 'l']; pure .null
    else number

/-- A value with nothing but blanks around it. -/
def document (depth : Nat) : Reader Json := do
  spaces
  let v ← value depth
  spaces
  pure v

end Startup.Json.Document

namespace Startup

/-- The value of a document. A text cannot nest deeper than it is long. -/
def Json.parse? (s : String) : Option Json :=
  let cs := s.toList
  (Json.Document.document (cs.length + 1)).all? cs

end Startup
