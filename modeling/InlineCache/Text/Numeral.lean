/-
# InlineCache.Text.Numeral -- decimal numerals with a bound

A numeral is an optional sign and one digit or more, ASCII digits only, with no
blank and no separator.  `parseNat?` reads one that may carry a plus sign,
`parseInt?` one that may carry either sign; both refuse a value out of bounds,
so the answer always fits the word it is meant for.
-/
namespace InlineCache.Text

set_option autoImplicit false

def digitValue? (c : Char) : Option Nat :=
  if '0' ≤ c ∧ c ≤ '9' then some (c.toNat - '0'.toNat) else none

/-- Read digits onto the value of those before them. -/
def digitsFrom (value : Nat) : List Char → Option Nat
  | [] => some value
  | c :: rest =>
      match digitValue? c with
      | some d => digitsFrom (10 * value + d) rest
      | none => none

def digits? : List Char → Option Nat
  | [] => none
  | cs => digitsFrom 0 cs

/-- A numeral without a minus sign, at most `bound`. -/
def parseNat? (bound : Nat) (text : String) : Option Nat :=
  let digits := match text.toList with
    | '+' :: rest => rest
    | cs => cs
  (digits? digits).filter (· ≤ bound)

/-- A numeral with either sign, between `low` and `high`. -/
def parseInt? (low high : Int) (text : String) : Option Int :=
  let value := match text.toList with
    | '+' :: rest => (digits? rest).map Int.ofNat
    | '-' :: rest => (digits? rest).map fun n => -Int.ofNat n
    | cs => (digits? cs).map Int.ofNat
  value.filter fun n => low ≤ n && n ≤ high

end InlineCache.Text
