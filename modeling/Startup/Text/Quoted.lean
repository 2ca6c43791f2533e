/-
Texts in double quotes. A quote, a backslash and the usual controls have short escapes, every
other character that would not be seen is written by its code point, and all else stands for itself.
-/
import Startup.Text.Blank
import Startup.Text.PrintTable

namespace Startup.Text

/-- The hexadecimal digits of `n`, in lower case and without leading zeros. -/
def hexDigits (n : Nat) : List Char := Nat.toDigits 16 n

/-- Whether a character is shown as itself. -/
def isVisible (c : Char) : Bool :=
  !(inRanges extendingRanges c.toNat || inRanges invisibleRanges c.toNat)

def quoteChar (c : Char) : List Char :=
  if c = '"' then ['\\', '"']
  else if c = '\\' then ['\\', '\\']
  else if c = '\n' then ['\\', 'n']
  else if c = '\t' then ['\\', 't']
  else if c = '\r' then ['\\', 'r']
  else if c.toNat = 0 then ['\\', '0']
  else if isVisible c then [c]
  else ['\\', 'u', '\x7b'] ++ hexDigits c.toNat ++ ['\x7d']

def quoted (s : String) : String := .ofList ('"' :: s.toList.flatMap quoteChar ++ ['"'])

/-- A list in brackets, its items separated by a comma and a space. -/
def bracketed (items : List String) : String := "[" ++ ", ".intercalate items ++ "]"

/-- A present value is wrapped, an absent one has a name. -/
def wrappedOption : Option String → String
  | some s => "Some(" ++ s ++ ")"
  | none => "None"

end Startup.Text
