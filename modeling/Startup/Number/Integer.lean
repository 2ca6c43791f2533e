/-
Whole numbers written in decimal, read into the 64-bit ranges. A number out of range is refused,
never wrapped.
-/
namespace Startup.Number

/-- The value of an ASCII digit. -/
def digit? (c : Char) : Option Nat :=
  if '0' ≤ c ∧ c ≤ '9' then some (c.toNat - '0'.toNat) else none

/-- The value of the digits in base ten, continuing from `acc`. -/
def digitsFrom (acc : Nat) : List Char → Option Nat
  | [] => some acc
  | c :: rest => (digit? c).bind fun d => digitsFrom (10 * acc + d) rest

/-- The value of one or more digits; leading zeros are allowed. -/
def natural? : List Char → Option Nat
  | [] => none
  | c :: rest => digitsFrom 0 (c :: rest)

/-- A natural number with an optional plus sign. -/
def unsigned? : List Char → Option Nat
  | '+' :: rest => natural? rest
  | cs => natural? cs

/-- A natural number with an optional sign. -/
def signed? : List Char → Option Int
  | '-' :: rest => (natural? rest).map fun n => -(n : Int)
  | cs => (unsigned? cs).map Int.ofNat

def toInt64? (n : Int) : Option Int64 :=
  if Int64.minValue.toInt ≤ n ∧ n ≤ Int64.maxValue.toInt then some (.ofInt n) else none

def toUInt64? (n : Nat) : Option UInt64 :=
  if n < UInt64.size then some (.ofNat n) else none

def int64? (s : String) : Option Int64 := (signed? s.toList).bind toInt64?

def uint64? (s : String) : Option UInt64 := (unsigned? s.toList).bind toUInt64?

/-- The decimal digits of a number, with a minus sign if it is negative. -/
def decimal (n : Int) : String :=
  match n with
  | .ofNat m => .ofList (Nat.toDigits 10 m)
  | .negSucc m => .ofList ('-' :: Nat.toDigits 10 (m + 1))

/-- The digits of `n`, filled up with zeros to at least `width` places. -/
def padded (width n : Nat) : List Char :=
  let digits := Nat.toDigits 10 n
  List.replicate (width - digits.length) '0' ++ digits

end Startup.Number
