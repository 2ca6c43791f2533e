/-
How the statements of a TOML document build its tables. A table is made by a header of its own, by
the header of a table inside it, or by a dotted key; each may be opened in one way only, and what is
once given is never given again.
-/
import Startup.Toml.Value

namespace Startup.Toml

/-- What made a table. -/
inductive Origin where
  /-- A header of its own, or braces. -/
  | header
  /-- The header of a table inside it. -/
  | inner
  /-- A dotted key. -/
  | dotted
  /-- A repeated header, which makes several tables in a row. -/
  | repeated
  deriving DecidableEq

/-- What stands under a key while the document is read. -/
inductive Node where
  | value (v : Value)
  | table (origin : Origin) (entries : List (String × Node))
  /-- The tables of a repeated header, the last one first. -/
  | tables (tables : List (List (String × Node)))

abbrev Entries := List (String × Node)

namespace Node

mutual
/-- The finished value: how a table was made no longer counts. -/
def toValue : Node → Value
  | .value v => v
  | .table _ entries => .table (finish entries)
  | .tables ts => .array (finishAll ts).reverse

def finish : Entries → List (String × Value)
  | [] => []
  | (k, n) :: rest => (k, n.toValue) :: finish rest

def finishAll : List Entries → List Value
  | [] => []
  | t :: rest => .table (finish t) :: finishAll rest
end

end Node

/-- A change of a table that may be refused. -/
abbrev Change := Entries → Option Entries

/-- The change `f` of the table under `key`. A missing table is made with the given origin, a
repeated header stands for its last table, and `enter` says which tables may be entered. -/
def within (key : String) (missing : Origin) (enter : Origin → Bool) (f : Change) : Change :=
  fun entries =>
    match entries.lookup key with
    | none => (f []).map fun t => insertEntry key (.table missing t) entries
    | some (.value _) => none
    | some (.table origin t) =>
      if enter origin then (f t).map fun t => insertEntry key (.table origin t) entries else none
    | some (.tables []) => none
    | some (.tables (t :: earlier)) =>
      if enter .repeated then
        (f t).map fun t => insertEntry key (.tables (t :: earlier)) entries
      else none

/-- The change `f` at the end of a path of headers. -/
def underHeaders (f : Change) : List String → Change
  | [] => f
  | key :: rest => within key .inner (fun _ => true) (underHeaders f rest)

/-- `[path.key]`: a new table, or one that so far was only made by headers inside it. -/
def openTable (key : String) : Change := fun entries =>
  match entries.lookup key with
  | none => some (insertEntry key (.table .header []) entries)
  | some (.table .inner t) => some (insertEntry key (.table .header t) entries)
  | some _ => none

/-- `[[path.key]]`: a further table under a repeated header. -/
def openRepeated (key : String) : Change := fun entries =>
  match entries.lookup key with
  | none => some (insertEntry key (.tables [[]]) entries)
  | some (.tables ts) => some (insertEntry key (.tables ([] :: ts)) entries)
  | some _ => none

/-- A key that is not there yet. -/
def assignNew (key : String) (v : Value) : Change := fun entries =>
  match entries.lookup key with
  | none => some (insertEntry key (.value v) entries)
  | some _ => none

/-- `key = value` with the key's parts in order. A part before the last names a table made by
dotted keys, which may lead through tables that only headers inside them have made but not end in
one. -/
def assign (v : Value) : List String → Change
  | [] => fun _ => none
  | [key] => assignNew key v
  | [part, key] => within part .dotted (· == .dotted) (assignNew key v)
  | part :: rest => within part .dotted (· != .header) (assign v rest)

end Startup.Toml
