/-
Sources of properties. A source has a name, a priority and values for its keys: given pairs, the
flattened tables of a document, or the variables of the process.
-/
import Startup.Config.Value
import Startup.Lifecycle.Error
import Startup.Toml.Document

namespace Startup

structure Source where
  name : String
  /-- A source of higher priority is asked first. -/
  priority : Int := 0
  get? : String → Option Value
  keys : List String

/-! ## Pairs -/

/-- Values by their keys, each key once. -/
abbrev Properties := List (String × Value)

/-- The pairs with `value` under `key`, in place of what was there. -/
def Properties.put (ps : Properties) (key : String) (value : Value) : Properties :=
  match ps with
  | [] => [(key, value)]
  | (k, v) :: rest => if k = key then (k, value) :: rest else (k, v) :: Properties.put rest key value

/-- The pairs in turn, a later value of a key in place of an earlier one. -/
def Properties.ofPairs (pairs : List (String × Value)) : Properties :=
  pairs.foldl (fun ps (k, v) => ps.put k v) []

def Source.ofProperties (name : String) (priority : Int) (ps : Properties) : Source where
  name := name
  priority := priority
  get? key := ps.lookup key
  keys := ps.map (·.1)

def Source.ofPairs (name : String) (priority : Int) (pairs : List (String × Value)) : Source :=
  .ofProperties name priority (.ofPairs pairs)

/-! ## Documents -/

mutual
/-- The property value of a document's value; a date is the text that shows it. -/
def Value.ofToml : Toml.Value → Value
  | .text s => .text s
  | .integer n => .int n
  | .float x => .float x
  | .boolean b => .bool b
  | .datetime shown => .text shown
  | .array items => .list (listOfToml items)
  | .table entries => .table (entriesOfToml entries)

def listOfToml : List Toml.Value → List Value
  | [] => []
  | v :: rest => .ofToml v :: listOfToml rest

def entriesOfToml : List (String × Toml.Value) → List (String × Value)
  | [] => []
  | (k, v) :: rest => (k, .ofToml v) :: entriesOfToml rest
end

/-- The key of an entry of the table at `path`, where the empty path is the root's. -/
def joinKey (path key : String) : String := if path.isEmpty then key else path ++ "." ++ key

mutual
/-- The values below a path with their keys, in order. Tables give their entries, everything else
is a value. -/
def flatten (path : String) : Toml.Value → List (String × Value)
  | .table entries => flattenEntries path entries
  | v => [(path, .ofToml v)]

def flattenEntries (path : String) : List (String × Toml.Value) → List (String × Value)
  | [] => []
  | (k, v) :: rest => flatten (joinKey path k) v ++ flattenEntries path rest
end

/-- The flattened tables of a document. Of two values that come to have the same key the later one
counts. -/
def Source.ofTable (name : String) (priority : Int) (root : List (String × Toml.Value)) : Source :=
  .ofPairs name priority (flattenEntries "" root)

def Source.ofToml (name : String) (priority : Int) (text : String) : Except StartupError Source :=
  match Toml.parse? text with
  | some root => .ok (.ofTable name priority root)
  | none => .error (.config "Failed to parse TOML")

/-! ## Variables of the process -/

abbrev Variables := List (String × String)

/-- The variable that a key names: upper case, points and dashes as underscores. -/
def variableOfKey (start key : String) : String :=
  start ++ Text.toUpper (key.map fun c => if c == '.' || c == '-' then '_' else c)

/-- The key that a variable is listed under: lower case, underscores as points. -/
def keyOfVariable (start name : String) : String :=
  (Text.toLower ((Text.after? start name).getD name)).map fun c => if c == '_' then '.' else c

/-- The variables whose names begin with `start`. Their values are texts, and they go before every
document. -/
def Source.ofVariables (start : String) (vars : Variables) : Source where
  name := "environment"
  priority := 100
  get? key := (vars.lookup (variableOfKey start key)).map .text
  keys := (vars.filter fun (name, _) => Text.startsWith start name).map fun (name, _) =>
    keyOfVariable start name

end Startup
