/-
The written form of property values as JSON. Texts, truth values and lists are written as such, and
the other kinds as an object with one entry that names the kind.
-/
import Startup.Config.Value
import Startup.Json.Access
import Startup.Toml.Value

namespace Startup.Value

mutual
def toJson : Value → Json
  | .text s => .ofString s
  | .int n => .ofEntries [("i", .ofString (Number.decimal n.toInt))]
  | .float x => .ofEntries [("f", .ofString x.text)]
  | .bool b => .bool b
  | .list items => .array (itemsToJson items)
  | .table entries => .ofEntries [("o", .ofEntries (entriesToJson entries))]

def itemsToJson : List Value → List Json
  | [] => []
  | v :: rest => v.toJson :: itemsToJson rest

def entriesToJson : List (String × Value) → List (String × Json)
  | [] => []
  | (k, v) :: rest => (k, v.toJson) :: entriesToJson rest
end

/-- A number that is written as a text. -/
def ofSpelling (kind spelling : String) : Value :=
  if kind = "i" then .int ((Number.int64? spelling).getD 0)
  else .float ((Number.Double.ofText? spelling).getD .nan)

mutual
/-- The value that is written; what is no form of any reads as the empty text. -/
def ofJson : Json → Value
  | .string s => .text (s.getD "")
  | .bool b => .bool b
  | .array items => .list (itemsOfJson items)
  | .object [(some "o", .object entries)] => .table (entriesOfJson entries [])
  | .object [(some kind, .string spelling)] => ofSpelling kind (spelling.getD "")
  | _ => .text ""

def itemsOfJson : List Json → List Value
  | [] => []
  | j :: rest => ofJson j :: itemsOfJson rest

/-- The entries in key order behind those that were read before. -/
def entriesOfJson :
    List (Option String × Json) → List (String × Value) → List (String × Value)
  | [], before => before
  | (k, j) :: rest, before =>
    entriesOfJson rest (Toml.insertEntry (k.getD "") (ofJson j) before)
end

end Startup.Value
