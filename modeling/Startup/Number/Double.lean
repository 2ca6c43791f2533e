/-
Binary floating-point numbers of 64 bits, kept as their bits: their fields, the value `m · 2 ^ e` of
a finite one, the one nearest to a decimal, and the texts that are read as one.
-/
import Startup.Number.Integer

namespace Startup.Number

structure Double where
  bits : UInt64

namespace Double

def isNegative (x : Double) : Bool := x.bits >>> 63 == 1

/-- The eleven bits of the exponent. -/
def exponentField (x : Double) : Nat := ((x.bits >>> 52) &&& 0x7FF).toNat

/-- The fifty-two bits below the exponent. -/
def fraction (x : Double) : Nat := (x.bits &&& 0xFFFFFFFFFFFFF).toNat

def isNaN (x : Double) : Bool := x.exponentField == 0x7FF && x.fraction != 0

def isInfinite (x : Double) : Bool := x.exponentField == 0x7FF && x.fraction == 0

/-- The magnitude of a finite number as `m · 2 ^ e`. -/
def mantissaExponent (x : Double) : Nat × Int :=
  if x.exponentField = 0 then (x.fraction, -1074)
  else (x.fraction + Nat.pow 2 52, x.exponentField - 1075)

/-- The number with the given sign, exponent field and fraction. -/
def ofFields (negative : Bool) (exponent fraction : Nat) : Double :=
  ⟨((if negative then 1 else 0 : UInt64) <<< 63) ||| (UInt64.ofNat exponent <<< 52) |||
    UInt64.ofNat fraction⟩

def zero (negative : Bool) : Double := ofFields negative 0 0
def infinity (negative : Bool) : Double := ofFields negative 0x7FF 0
def nan : Double := ofFields false 0x7FF (Nat.pow 2 51)

/-- Equality of the numbers: a NaN differs from everything, and the two zeros are equal. -/
def sameNumber (x y : Double) : Bool :=
  !x.isNaN && !y.isNaN && (x.bits == y.bits || (x.bits ||| y.bits) <<< 1 == 0)

/-! ## Rounding -/

/-- The quotient rounded to the nearest whole number, a half to the even one. -/
def roundDiv (num den : Nat) : Nat :=
  let q := num / den
  let twice := 2 * (num % den)
  if twice < den then q else if den < twice then q + 1 else q + q % 2

/-- `m · 2 ^ e` for `m ≤ 2 ^ 53`, where a mantissa below `2 ^ 52` comes with the least exponent. -/
def ofMantissa (negative : Bool) (m : Nat) (e : Int) : Double :=
  if m < Nat.pow 2 52 then ofFields negative 0 m
  else
    let (m, e) := if m = Nat.pow 2 53 then (Nat.pow 2 52, e + 1) else (m, e)
    if e > 971 then infinity negative else ofFields negative (e + 1075).toNat (m - Nat.pow 2 52)

/-- The number nearest to `num / den`, a tie to the even mantissa. -/
def ofRatio (negative : Bool) (num den : Nat) : Double :=
  if num = 0 then zero negative
  else
    let guess : Int := (num.log2 : Int) - den.log2
    -- `2 ^ guess` may lie above the ratio by less than a factor of two
    let above :=
      if guess ≥ 0 then num < den * Nat.pow 2 guess.toNat else num * Nat.pow 2 (-guess).toNat < den
    let e := max ((if above then guess - 1 else guess) - 52) (-1074)
    let m :=
      if e ≥ 0 then roundDiv num (den * Nat.pow 2 e.toNat)
      else roundDiv (num * Nat.pow 2 (-e).toNat) den
    ofMantissa negative m e

/-- The number nearest to `m · 10 ^ e`. A decimal far out of range is settled by its size alone. -/
def ofDecimal (negative : Bool) (m : Nat) (e : Int) : Double :=
  if m = 0 then zero negative
  else
    let size := (Nat.toDigits 10 m).length + e
    if size > 310 then infinity negative
    else if size < -330 then zero negative
    else if e ≥ 0 then ofRatio negative (m * Nat.pow 10 e.toNat) 1
    else ofRatio negative m (Nat.pow 10 (-e).toNat)

/-! ## Reading -/

/-- The exponent after its mark: an optional sign and digits. -/
def exponent? : List Char → Option Int
  | [] => some 0
  | c :: rest => if c = 'e' ∨ c = 'E' then signed? rest else none

/-- The number nearest to digits, an optional point with further digits, and an optional exponent.
At least one digit stands before the exponent. -/
def ofDigits? (negative : Bool) (cs : List Char) : Option Double :=
  let isDigit c := (digit? c).isSome
  let whole := cs.takeWhile isDigit
  let rest := cs.dropWhile isDigit
  let (places, rest) := match rest with
    | '.' :: more => (more.takeWhile isDigit, more.dropWhile isDigit)
    | _ => ([], rest)
  (natural? (whole ++ places)).bind fun m =>
    (exponent? rest).map fun e => ofDecimal negative m (e - places.length)

/-- A number, an infinity or a NaN, with an optional sign. The names are read in any case. -/
def ofText? (s : String) : Option Double :=
  let (negative, body) := match s.toList with
    | '-' :: rest => (true, rest)
    | '+' :: rest => (false, rest)
    | cs => (false, cs)
  let name := String.ofList (body.map Char.toLower)
  if name == "inf" || name == "infinity" then some (infinity negative)
  else if name == "nan" then some nan
  else ofDigits? negative body

end Double

end Startup.Number
