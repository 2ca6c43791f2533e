/-
Readers of text: a reader takes characters off the front of a text and gives a value and the rest,
or refuses. Repetition is bounded by the length of the text, which suffices because a round that
takes nothing ends it.
-/
namespace Startup.Text

abbrev Reader := StateT (List Char) Option

namespace Reader

variable {α β : Type}

/-- The reader's value, if it takes the whole text. -/
def all? (r : Reader α) (cs : List Char) : Option α :=
  match r cs with
  | some (a, []) => some a
  | _ => none

def refuse : Reader α := fun _ => none

/-- The next character, which stays. -/
def peek : Reader (Option Char) := fun cs => some (cs.head?, cs)

/-- The next `n` characters, or fewer at the end, which stay. -/
def ahead (n : Nat) : Reader (List Char) := fun cs => some (cs.take n, cs)

/-- One character that satisfies `p`. -/
def one (p : Char → Bool) : Reader Char
  | [] => none
  | c :: rest => if p c then some (c, rest) else none

def char (c : Char) : Reader Unit := (fun _ => ()) <$> one (· == c)

/-- The given characters. -/
def chars : List Char → Reader Unit
  | [] => pure ()
  | c :: more => do char c; chars more

/-- The longest run of characters that satisfy `p`, possibly empty. -/
def run (p : Char → Bool) : Reader (List Char) := fun cs => some (cs.takeWhile p, cs.dropWhile p)

/-- The longest run of characters that satisfy `p`, at least one. -/
def run1 (p : Char → Bool) : Reader (List Char) := do
  let cs ← run p
  if cs.isEmpty then refuse else pure cs

/-- Exactly `n` characters that satisfy `p`. -/
def exactly (p : Char → Bool) : Nat → Reader (List Char)
  | 0 => pure []
  | n + 1 => do
    let c ← one p
    let more ← exactly p n
    pure (c :: more)

/-- The first reader's value, or the second's on the same text if the first refuses. -/
def orElse (first second : Reader α) : Reader α := fun cs =>
  match first cs with
  | some result => some result
  | none => second cs

/-- The value of a reader that may refuse. -/
def maybe (r : Reader α) : Reader (Option α) := orElse (some <$> r) (pure none)

/-- Only values that satisfy `p`. -/
def whenever (p : α → Bool) (r : Reader α) : Reader α := do
  let a ← r
  if p a then pure a else refuse

/-- A reader's value put through a partial function. -/
def mapping (f : α → Option β) (r : Reader α) : Reader β := do
  match f (← r) with
  | some b => pure b
  | none => refuse

/-- At most `bound` rounds of `r`, until it refuses or takes nothing. -/
def rounds (r : Reader α) : Nat → Reader (List α)
  | 0 => pure []
  | bound + 1 => fun cs =>
    match r cs with
    | none => some ([], cs)
    | some (a, rest) =>
      if rest.length < cs.length then
        match rounds r bound rest with
        | some (more, rest) => some (a :: more, rest)
        | none => none
      else some ([], cs)

/-- As many rounds of `r` as the text allows. -/
def many (r : Reader α) : Reader (List α) := fun cs => rounds r cs.length cs

/-- One or more rounds of `r`, with `separator` between them. -/
def separated1 (r : Reader α) (separator : Reader Unit) : Reader (List α) := do
  let first ← r
  let more ← many (do separator; r)
  pure (first :: more)

end Reader

end Startup.Text
