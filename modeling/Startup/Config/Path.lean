/-
File names inside paths: the last name of a path, its stem and its extension, and the path with
another last name. A point at the end of a path or between two slashes is no name.
-/
import Startup.Text.Blank

namespace Startup.Path

/-- Whether a piece between slashes is a name. -/
def isName (piece : List Char) : Bool := !piece.isEmpty && piece != ['.']

/-- The pieces of a path without those at its end that are no names. A point at the very front is
kept. -/
def cut (path : List Char) : List (List Char) :=
  let pieces := (Text.pieces (· == '/') path)
  match pieces with
  | [] => []
  | first :: rest =>
    let rest := (rest.reverse.dropWhile (!isName ·)).reverse
    if rest.isEmpty && first.isEmpty then [] else first :: rest

/-- The last name of a path, unless it leads to the directory above or has none. -/
def fileName? (path : List Char) : Option (List Char) :=
  match (cut path).getLast? with
  | some name => if name.isEmpty || name == ['.'] || name == ['.', '.'] then none else some name
  | none => none

/-- What stands before the last point of a name and behind it. A point at the front of the name
does not count. -/
def splitName (name : List Char) : List Char × Option (List Char) :=
  let behind := name.reverse.takeWhile (· != '.')
  let before := (name.reverse.drop (behind.length + 1)).reverse
  if before.isEmpty then (name, none) else (before, some behind.reverse)

/-- The path up to its last name, with the slash that ends it. -/
def parent (path : List Char) : List Char :=
  let front := (cut path).dropLast
  -- pieces that are no names at the end of the front do not belong to it
  match front with
  | [] => []
  | first :: rest =>
    let rest := (rest.reverse.dropWhile (!isName ·)).reverse
    if first.isEmpty && rest.isEmpty then ['/']
    else (['/'].intercalate (first :: rest)) ++ ['/']

/-- The path with another last name. -/
def withFileName (path name : List Char) : List Char := parent path ++ name

/-- The file of a profile beside a file: the profile's name stands behind the stem, or at the end
of a path without an extension. -/
def ofProfile (path profile : String) : String :=
  match (fileName? path.toList).map splitName with
  | some (stem, some extension) =>
    .ofList (withFileName path.toList (stem ++ '-' :: profile.toList ++ '.' :: extension))
  | _ => path ++ "-" ++ profile

end Startup.Path
