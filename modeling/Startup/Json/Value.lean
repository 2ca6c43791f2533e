/-
JSON values and their written form. Objects keep their entries as they are written, duplicates
included; a string whose escapes are lone halves of surrogate pairs has no text.
-/
import Startup.Number.Integer

namespace Startup

inductive Json where
  | null
  | bool (b : Bool)
  | integer (n : Int)
  /-- A number with a fraction or an exponent, or the negative zero, by its spelling. -/
  | decimal (spelling : String)
  | string (text : Option String)
  | array (items : List Json)
  | object (entries : List (Option String × Json))
  deriving Inhabited

namespace Json

def ofString (s : String) : Json := .string (some s)

def ofEntries (entries : List (String × Json)) : Json :=
  .object (entries.map fun (k, v) => (some k, v))

def ofOption {α : Type} (f : α → Json) : Option α → Json
  | some a => f a
  | none => .null

def ofStrings (items : List String) : Json := .array (items.map ofString)

/-! ## Writing -/

/-- Four hexadecimal digits. -/
def hex4 (n : Nat) : List Char :=
  let digits := Nat.toDigits 16 n
  List.replicate (4 - digits.length) '0' ++ digits

/-- A character inside quotes, in ASCII: one escape, or a surrogate pair of them. -/
def escapeChar (c : Char) : List Char :=
  let n := c.toNat
  if c = '"' then ['\\', '"']
  else if c = '\\' then ['\\', '\\']
  else if 0x20 ≤ n ∧ n < 0x7F then [c]
  else if n < 0x10000 then '\\' :: 'u' :: hex4 n
  else
    '\\' :: 'u' :: hex4 (0xD800 + (n - 0x10000) / 0x400) ++
      '\\' :: 'u' :: hex4 (0xDC00 + (n - 0x10000) % 0x400)

def quote (s : String) : String := .ofList ('"' :: s.toList.flatMap escapeChar ++ ['"'])

mutual
/-- The value on one line, without blanks, in ASCII. -/
def render : Json → String
  | .null => "null"
  | .bool true => "true"
  | .bool false => "false"
  | .integer n => Number.decimal n
  | .decimal spelling => spelling
  | .string text => quote (text.getD "")
  | .array items => "[" ++ ",".intercalate (renderItems items) ++ "]"
  | .object entries => "\x7b" ++ ",".intercalate (renderEntries entries) ++ "\x7d"

def renderItems : List Json → List String
  | [] => []
  | v :: rest => v.render :: renderItems rest

def renderEntries : List (Option String × Json) → List String
  | [] => []
  | (k, v) :: rest => (quote (k.getD "") ++ ":" ++ v.render) :: renderEntries rest
end

end Json

end Startup
