/-
The shortest decimal that reads back as a given number. For one digit, two digits and so on the two
neighbours of the number on that decimal grid are tried; the first grid with a neighbour inside the
interval of reals that round to the number wins, and of two neighbours the nearer one.
-/
import Startup.Number.Double

namespace Startup.Number.Double

/-- A positive fraction. -/
structure Ratio where
  num : Nat
  den : Nat

def Ratio.scale (r : Ratio) (base : Nat) (e : Int) : Ratio :=
  if e ≥ 0 then ⟨r.num * base.pow e.toNat, r.den⟩ else ⟨r.num, r.den * base.pow (-e).toNat⟩

def Ratio.lt (a b : Ratio) : Bool := a.num * b.den < b.num * a.den
def Ratio.le (a b : Ratio) : Bool := a.num * b.den ≤ b.num * a.den

/-- Whether `c` rounds to the finite number `m · 2 ^ e`. The interval reaches half-way to the
neighbours, of which the lower one is nearer below a power of two; its ends belong to it when the
mantissa is even. -/
def roundsTo (m : Nat) (e : Int) (c : Ratio) : Bool :=
  let lower := if m = Nat.pow 2 52 ∧ e > -1074 then 4 * m - 1 else 4 * m - 2
  let low := Ratio.scale ⟨lower, 4⟩ 2 e
  let high := Ratio.scale ⟨4 * m + 2, 4⟩ 2 e
  if m % 2 = 0 then low.le c && c.le high else low.lt c && c.lt high

/-- The neighbour of `value` on the grid of multiples of `10 ^ p` that rounds to `m · 2 ^ e`, if
there is one: the nearer of two, and the even one when both are equally near. -/
def onGrid? (m : Nat) (e : Int) (value : Ratio) (p : Int) : Option Nat :=
  let scaled := value.scale 10 (-p)
  let below := scaled.num / scaled.den
  let fits (k : Nat) : Bool := k != 0 && roundsTo m e (Ratio.scale ⟨k, 1⟩ 10 p)
  match fits below, fits (below + 1) with
  | true, true => some (roundDiv scaled.num scaled.den)
  | true, false => some below
  | false, true => some (below + 1)
  | false, false => none

/-- The first exponent `p` from `p` downwards whose grid has a fitting neighbour. -/
def searchGrids (m : Nat) (e : Int) (value : Ratio) : Nat → Int → Nat × Int
  | 0, p => ((value.scale 10 (-p)).num / (value.scale 10 (-p)).den, p)
  | tries + 1, p =>
    match onGrid? m e value p with
    | some k => (k, p)
    | none => searchGrids m e value tries (p - 1)

/-- The shortest decimal `k · 10 ^ p` of the positive number `m · 2 ^ e`. Seventeen digits always
suffice, and the search starts at or above the leading one. -/
def shortest (m : Nat) (e : Int) : Nat × Int :=
  let value := Ratio.scale ⟨m, 1⟩ 2 e
  let start : Int := ((m.log2 : Int) + e) * 30103 / 100000 + 2
  searchGrids m e value 24 start

/-- The digits of `k · 10 ^ p` in positional notation, without an exponent. -/
def positional (k : Nat) (p : Int) : List Char :=
  let digits := Nat.toDigits 10 k
  if p ≥ 0 then digits ++ List.replicate p.toNat '0'
  else
    let places := (-p).toNat
    let digits := List.replicate (places + 1 - digits.length) '0' ++ digits
    digits.take (digits.length - places) ++ '.' :: digits.drop (digits.length - places)

/-- The shortest text that reads back as the number, always positional: no exponent, and no point
in a whole number. -/
def text (x : Double) : String :=
  let sign := if x.isNegative then "-" else ""
  if x.isNaN then "NaN"
  else if x.isInfinite then sign ++ "inf"
  else
    let (m, e) := x.mantissaExponent
    if m = 0 then sign ++ "0"
    else
      let (k, p) := shortest m e
      sign ++ .ofList (positional k p)

end Startup.Number.Double
