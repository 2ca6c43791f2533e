/-
Conditions on properties, and the outcome of a condition: whether it matched, and why.
-/
import Startup.Feature.Switch

namespace Startup

structure Outcome where
  isMatch : Bool
  message : String
  deriving DecidableEq, Repr

namespace Outcome

def matched (message : String) : Outcome := ⟨true, message⟩
def unmatched (message : String) : Outcome := ⟨false, message⟩

def shown (o : Outcome) : String :=
  (if o.isMatch then "matched" else "did not match") ++ " (" ++ o.message ++ ")"

end Outcome

/-- A condition on one property. -/
structure PropertyCondition where
  key : String
  /-- The value asked for, up to the case of ASCII letters; without one, any value but `false`. -/
  expected : Option String := some "true"
  /-- The outcome when the property is not set. -/
  whenMissing : Bool := false

namespace PropertyCondition

def name : String := "OnPropertyCondition"

/-- The condition on a name below a path of keys. Points at the end of the path do not count. -/
def ofPath (path name : String) : PropertyCondition where
  key :=
    if path.isEmpty then name
    else .ofList (Text.dropEnd (· == '.') path.toList) ++ "." ++ name

def havingValue (c : PropertyCondition) (value : String) : PropertyCondition :=
  { c with expected := some value }

def anyValue (c : PropertyCondition) : PropertyCondition := { c with expected := none }

def matchIfMissing (c : PropertyCondition) (b : Bool) : PropertyCondition :=
  { c with whenMissing := b }

/-- Whether a value, blanks at its ends aside, is one that is asked for. -/
def accepts (c : PropertyCondition) (value : String) : Bool :=
  match c.expected with
  | some expected => Text.sameUpToAsciiCase (Text.trim value) expected
  | none => !Text.sameUpToAsciiCase (Text.trim value) "false"

def outcome (c : PropertyCondition) (env : Environment) : Outcome :=
  match env.getText? c.key with
  | none =>
    if c.whenMissing then .matched ("property " ++ c.key ++ " not set, matching by default")
    else .unmatched ("did not find property " ++ c.key)
  | some value =>
    let found := "property " ++ c.key ++ "=" ++ value
    if c.accepts value then .matched found
    else
      match c.expected with
      | some expected => .unmatched (found ++ " (expected " ++ expected ++ ")")
      | none => .unmatched found

end PropertyCondition

end Startup
