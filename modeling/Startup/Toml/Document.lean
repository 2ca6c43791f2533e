/-
TOML documents: values, statements, and the table that a whole document describes.
-/
import Startup.Toml.Assembly
import Startup.Toml.Lexical

namespace Startup.Toml

open Startup.Text Startup.Text.Reader

/-! ## Values -/

/-- Statements `key = value` in braces, one line, without a comma at the end. -/
def inlineTable (value : Reader Value) : Reader Value := do
  char '{'
  let statements ← maybe (separated1
    (do
      let path ← key
      char '='
      blanks
      let v ← value
      blanks
      pure (path, v))
    (char ','))
  blanks
  char '}'
  match (statements.getD []).foldlM (fun entries (path, v) => assign v path entries) [] with
  | some entries => pure (.table (Node.finish entries))
  | none => refuse

/-- Values in brackets over any number of lines; a comma may stand behind the last one. -/
def array (value : Reader Value) : Reader Value := do
  char '['
  let items ← maybe (do
    let items ← separated1 (do gap; let v ← value; gap; pure v) (char ',')
    let _ ← maybe (char ',')
    pure items)
  gap
  char ']'
  pure (.array (items.getD []))

/-- A value without values inside it. -/
def scalar : Reader Value := do
  let next ← peek
  if next == some '"' || next == some '\'' then Value.text <$> string
  else if next == some 't' then do chars ['t', 'r', 'u', 'e']; pure (.boolean true)
  else if next == some 'f' then do chars ['f', 'a', 'l', 's', 'e']; pure (.boolean false)
  else orElse (Value.datetime <$> datetime) (orElse (Value.float <$> float) (Value.integer <$> integer))

/-- A value that nests arrays and inline tables at most `depth` deep. -/
def value : (depth : Nat) → Reader Value
  | 0 => scalar
  | depth + 1 => do
    let next ← peek
    if next == some '[' then array (value depth)
    else if next == some '{' then inlineTable (value depth)
    else scalar

/-! ## Statements -/

inductive Statement where
  | header (path : List String)
  | repeatedHeader (path : List String)
  | assignment (path : List String) (v : Value)
  | blank

def statement : Reader Statement := do
  match ← ahead 2 with
  | ['[', '['] => do
    chars ['[', '[']
    let path ← key
    chars [']', ']']
    restOfLine
    pure (.repeatedHeader path)
  | '[' :: _ => do
    char '['
    let path ← key
    char ']'
    restOfLine
    pure (.header path)
  | '#' :: _ => do comment; restOfLine; pure .blank
  | '\n' :: _ | '\r' :: _ => do lineEnd; pure .blank
  | _ => do
    let path ← key
    char '='
    blanks
    let v ← value (nestingLimit - 1)
    restOfLine
    pure (.assignment path v)

/-- The statements of a document, after an optional byte order mark. -/
def document : Reader (List Statement) := do
  let _ ← maybe (char '\ufeff')
  blanks
  many (do let s ← statement; blanks; pure s)

/-! ## The table of a document -/

/-- A change at the end of a header's path, given by its last key. -/
def atHeader (f : String → Change) (path : List String) : Change :=
  match path.getLast? with
  | some key => underHeaders (f key) path.dropLast
  | none => fun _ => none

/-- The root table and the path of the open header after one more statement. -/
def Statement.apply : List String × Entries → Statement → Option (List String × Entries)
  | (_, root), .header path => (atHeader openTable path root).map (path, ·)
  | (_, root), .repeatedHeader path => (atHeader openRepeated path root).map (path, ·)
  | (here, root), .assignment path v => (underHeaders (assign v path) here root).map (here, ·)
  | state, .blank => some state

/-- The root table of a document, or nothing if it is no TOML. -/
def parse? (s : String) : Option (List (String × Value)) := do
  let statements ← document.all? s.toList
  let (_, root) ← statements.foldlM Statement.apply ([], [])
  pure (Node.finish root)

end Startup.Toml
