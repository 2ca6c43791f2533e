/-
What a TOML document says: values of seven kinds. Tables are kept in the order of their keys, each
key once, and a date or time is kept by the text it is shown as.
-/
import Startup.Number.Double

namespace Startup.Toml

inductive Value where
  | text (s : String)
  | integer (n : Int64)
  | float (x : Number.Double)
  | boolean (b : Bool)
  | datetime (shown : String)
  | array (items : List Value)
  | table (entries : List (String × Value))

/-- The entries in key order with `value` under `key`, in place of what was there. -/
def insertEntry {α : Type} (key : String) (value : α) : List (String × α) → List (String × α)
  | [] => [(key, value)]
  | (k, v) :: rest =>
    if key < k then (key, value) :: (k, v) :: rest
    else if key = k then (key, value) :: rest
    else (k, v) :: insertEntry key value rest

end Startup.Toml
