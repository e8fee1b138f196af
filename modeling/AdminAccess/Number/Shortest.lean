import AdminAccess.Number.Binary64

/-!
# Shortest decimal text of a floating point number

`Magnitude.shortest` finds the fewest decimal digits that read back as the same number and,
among those, the ones nearest to it.  `Binary64.text` lays them out: positional between
`0.00001` and `10 ^ 16`, with an exponent elsewhere, and always marked as no integer.  Whether
a positive exponent has a sign is up to the format around it.
-/

namespace AdminAccess

/-- The number `digits * 10 ^ exponent`. -/
structure Decimal where
  digits : Nat
  exponent : Int
  deriving DecidableEq, Repr, Inhabited

namespace Decimal

def ratio (d : Decimal) : Nat × Nat :=
  if 0 ≤ d.exponent then (d.digits * Nat.pow 10 d.exponent.toNat, 1)
  else (d.digits, Nat.pow 10 (-d.exponent).toNat)

def trim : Nat → Decimal → Decimal
  | 0, d => d
  | fuel + 1, d =>
    if d.digits % 10 = 0 && d.digits ≠ 0 then trim fuel ⟨d.digits / 10, d.exponent + 1⟩ else d

end Decimal

namespace Magnitude

/-- Whether a quotient lies among the reals that round to a magnitude.  The ends count when
the significand is even. -/
def roundsFrom (m : Magnitude) (num den : Nat) : Bool :=
  let below := if m.significand = Nat.pow 2 52 && m.exponent ≠ minExponent then 1 else 2
  let unit := scale num den (m.exponent - 2)
  let low := (4 * m.significand - below) * unit.2
  let high := (4 * m.significand + 2) * unit.2
  if m.significand % 2 = 0 then low ≤ unit.1 && unit.1 ≤ high
  else low < unit.1 && unit.1 < high

def powerAtMost (power : Int) (num den : Nat) : Bool :=
  let bound := Decimal.ratio ⟨1, power⟩
  bound.1 * den ≤ num * bound.2

/-- The power of ten of the first digit of a quotient. -/
def leadingPower (num den : Nat) : Int :=
  let binary : Int := (Nat.log2 num : Int) - (Nat.log2 den : Int)
  let guess := Int.fdiv (binary * 30103) 100000
  if powerAtMost (guess + 1) num den then guess + 1
  else if powerAtMost guess num den then guess
  else guess - 1

/-- The two decimals next to a magnitude whose last digit counts `10 ^ exponent`, the nearer
one first. -/
def neighbours (m : Magnitude) (exponent : Int) : List Decimal :=
  let value := m.ratio
  let step := Decimal.ratio ⟨1, exponent⟩
  let num := value.1 * step.2
  let den := value.2 * step.1
  let floor := num / den
  let rest := num % den
  if 2 * rest < den || (2 * rest = den && floor % 2 = 0) then
    [⟨floor, exponent⟩, ⟨floor + 1, exponent⟩]
  else
    [⟨floor + 1, exponent⟩, ⟨floor, exponent⟩]

/-- The first decimal that reads back, trying one digit more each time. -/
def shortestFrom (m : Magnitude) (power : Int) : Nat → Nat → Decimal
  | 0, count => (neighbours m (power - count)).headD ⟨0, 0⟩
  | fuel + 1, count =>
    let candidates := (neighbours m (power - count)).filter fun d =>
      roundsFrom m d.ratio.1 d.ratio.2
    match candidates with
    | d :: _ => d
    | [] => shortestFrom m power fuel (count + 1)

/-- The shortest decimal that rounds to a magnitude; seventeen digits always suffice. -/
def shortest (m : Magnitude) : Decimal :=
  if m.isZero then ⟨0, 0⟩
  else Decimal.trim 20 (shortestFrom m (leadingPower m.ratio.1 m.ratio.2) 16 0)

end Magnitude

namespace Binary64

/-- Digits laid out around the decimal point, with `plus` in front of a positive exponent. -/
def layOut (plus : List Char) (digits : List Char) (exponent : Int) : List Char :=
  let count : Int := digits.length
  let point := count + exponent
  if digits == ['0'] then ['0', '.', '0']
  else if 0 ≤ exponent && point ≤ 16 then
    digits ++ List.replicate exponent.toNat '0' ++ ['.', '0']
  else if 0 < point && point ≤ 16 then
    digits.take point.toNat ++ '.' :: digits.drop point.toNat
  else if -5 < point && point ≤ 0 then
    ['0', '.'] ++ List.replicate (-point).toNat '0' ++ digits
  else
    let power := point - 1
    let sign := if power < 0 then ['-'] else plus
    let mantissa :=
      match digits with
      | first :: second :: rest => first :: '.' :: second :: rest
      | _ => digits
    mantissa ++ 'e' :: sign ++ Nat.toDigits 10 power.natAbs

def textWith (plus : List Char) (f : Binary64) : String :=
  let d := f.magnitude.shortest
  let body := layOut plus (Nat.toDigits 10 d.digits) d.exponent
  String.ofList (if f.negative then '-' :: body else body)

/-- The text of a number in a document: a positive exponent has its sign. -/
def text (f : Binary64) : String :=
  f.textWith ['+']

/-- The text of a number in a form: a positive exponent has no sign. -/
def plainText (f : Binary64) : String :=
  f.textWith []

end Binary64

end AdminAccess
