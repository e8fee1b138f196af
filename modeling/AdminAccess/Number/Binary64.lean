/-!
# Binary floating point numbers

Finite numbers of 53 significant bits with exact arithmetic on naturals: `ofRatio?` rounds a
quotient to the nearest representable number, a tie to the even significand, and answers
none where the result would be infinite.
-/

namespace AdminAccess

/-- The absolute value `significand * 2 ^ exponent`.  The exponent is the least one possible:
at least `-1074`, and above that the significand has 53 bits. -/
structure Magnitude where
  significand : Nat
  exponent : Int
  deriving DecidableEq, Repr, Inhabited

namespace Magnitude

def minExponent : Int := -1074

def maxExponent : Int := 971

def zero : Magnitude := ⟨0, minExponent⟩

def isZero (m : Magnitude) : Bool :=
  m.significand == 0

def ratio (m : Magnitude) : Nat × Nat :=
  if 0 ≤ m.exponent then (m.significand * Nat.pow 2 m.exponent.toNat, 1)
  else (m.significand, Nat.pow 2 (-m.exponent).toNat)

def scale (num den : Nat) (exponent : Int) : Nat × Nat :=
  if 0 ≤ exponent then (num, den * Nat.pow 2 exponent.toNat)
  else (num * Nat.pow 2 (-exponent).toNat, den)

/-- The nearest natural to a quotient; a tie goes to the even one. -/
def roundHalfEven (num den : Nat) : Nat :=
  let q := num / den
  let r := num % den
  if 2 * r < den then q
  else if den < 2 * r then q + 1
  else if q % 2 = 0 then q else q + 1

/-- The exponent at which the significand of a quotient has 53 bits, or the least one. -/
def exponentOf (num den : Nat) : Int :=
  let guess : Int := (Nat.log2 num : Int) - (Nat.log2 den : Int) - 52
  let scaled := scale num den guess
  let exponent := if scaled.1 < Nat.pow 2 52 * scaled.2 then guess - 1 else guess
  max exponent minExponent

/-- The representable number nearest to `num / den`, when that is finite. -/
def ofRatio? (num den : Nat) : Option Magnitude :=
  if num = 0 then some zero
  else
    let exponent := exponentOf num den
    let scaled := scale num den exponent
    let significand := roundHalfEven scaled.1 scaled.2
    let result : Magnitude :=
      if significand = Nat.pow 2 53 then ⟨Nat.pow 2 52, exponent + 1⟩ else ⟨significand, exponent⟩
    if maxExponent < result.exponent then none else some result

/-- The nearest representable number to a natural of at most 64 bits. -/
def ofNat (n : Nat) : Magnitude :=
  (ofRatio? n 1).getD zero

def powerOfTen (k : Nat) : Magnitude :=
  (ofRatio? (Nat.pow 10 k) 1).getD zero

def times? (a b : Magnitude) : Option Magnitude :=
  ofRatio? (a.ratio.1 * b.ratio.1) (a.ratio.2 * b.ratio.2)

def over? (a b : Magnitude) : Option Magnitude :=
  ofRatio? (a.ratio.1 * b.ratio.2) (a.ratio.2 * b.ratio.1)

end Magnitude

/-- A finite floating point number; zero has both signs. -/
structure Binary64 where
  negative : Bool
  magnitude : Magnitude
  deriving DecidableEq, Repr, Inhabited

end AdminAccess
