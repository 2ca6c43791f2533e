/-
Looking into JSON values: what a value is, and what stands under a name of an object. Of several
entries with one name the last counts, and whatever is not there reads as empty.
-/
import Startup.Json.Value

namespace Startup.Json

/-! ## What a value is -/

def asBool? : Json → Option Bool
  | .bool b => some b
  | _ => none

def asText? : Json → Option String
  | .string s => s
  | _ => none

def asText (j : Json) : String := j.asText?.getD ""

def asInt? : Json → Option Int
  | .integer n => some n
  | _ => none

/-- The items of an array; anything else has none. -/
def items : Json → List Json
  | .array items => items
  | _ => []

/-- The entries of an object; anything else has none. -/
def entries : Json → List (String × Json)
  | .object es => es.map fun (k, v) => (k.getD "", v)
  | _ => []

/-! ## What stands under a name -/

def get? (j : Json) (name : String) : Option Json :=
  match j with
  | .object es => (es.reverse.find? fun e => e.1 == some name).map (·.2)
  | _ => none

def has (j : Json) (name : String) : Bool := (j.get? name).isSome

def get (j : Json) (name : String) : Json := (j.get? name).getD .null

def str? (j : Json) (name : String) : Option String := (j.get? name).bind asText?

def str (j : Json) (name : String) : String := (j.get name).asText

def flag? (j : Json) (name : String) : Option Bool := (j.get? name).bind asBool?

def flag (j : Json) (name : String) : Bool := (j.flag? name).getD false

def int? (j : Json) (name : String) : Option Int := (j.get? name).bind asInt?

def list (j : Json) (name : String) : List Json := (j.get name).items

def strs (j : Json) (name : String) : List String := (j.list name).map asText

end Startup.Json
