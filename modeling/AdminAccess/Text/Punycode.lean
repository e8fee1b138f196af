import AdminAccess.Text.Printable

/-!
# Names of ASCII letters that stand for other letters

The part of a domain name behind `xn--` spells characters outside ASCII with letters, digits
and hyphens: first the ASCII characters, then a hyphen if there are any, then numbers that say
which character goes where.  `decode?` reads it back.
-/

namespace AdminAccess

namespace Punycode

def digit? (c : Char) : Option Nat :=
  if c.isLower then some (c.toNat - 'a'.toNat)
  else if c.isDigit then some (c.toNat - '0'.toNat + 26)
  else none

/-- The digit at which a number ends must be below this; `place` counts from zero. -/
def threshold (bias place : Nat) : Nat :=
  max 1 (min 26 (36 * (place + 1) - bias))

def maxValue : Nat := Nat.pow 2 32 - 1

/-- Add the value of a number to `value` and give back what follows it.  The digits come in
ascending order of weight and the last one is below its threshold. -/
def readNumber (bias : Nat) : Nat → Nat → Nat → List Char → Option (Nat × List Char)
  | _, _, _, [] => none
  | place, weight, value, c :: rest =>
    match digit? c with
    | none => none
    | some digit =>
      let value := value + digit * weight
      if maxValue < value || maxValue < weight then none
      else if digit < threshold bias place then some (value, rest)
      else readNumber bias (place + 1) (weight * (36 - threshold bias place)) value rest

/-- Make a step smaller and count how often. -/
def damp (step : Nat) : Nat × Nat :=
  if 455 < step then
    let damped := damp (step / 35)
    (damped.1, damped.2 + 1)
  else (step, 0)
termination_by step
decreasing_by omega

/-- The bias for the next number, from the step of the last one. -/
def adapt (step count : Nat) (isFirst : Bool) : Nat :=
  let step := if isFirst then step / 700 else step / 2
  let damped := damp (step + step / count)
  36 * damped.2 + 36 * damped.1 / (damped.1 + 38)

def char? (code : Nat) : Option Char :=
  if code.isValidChar then some (Char.ofNat code) else none

/-- Put the characters that numbers tell of into a text.  `place` is where the last one went
and `code` is what it was; every number takes a digit, so the length is enough fuel. -/
def insertLoop : Nat → Nat → Nat → Nat → List Char → List Char → Option (List Char)
  | _, _, _, _, soFar, [] => some soFar
  | 0, _, _, _, _, _ => none
  | fuel + 1, bias, place, code, soFar, input =>
    match readNumber bias 0 1 place input with
    | none => none
    | some (value, rest) =>
      let count := soFar.length + 1
      let code := code + value / count
      match char? code with
      | none => none
      | some c =>
        let bias := adapt (value - place) count (place = 0)
        insertLoop fuel bias (value % count + 1) code (soFar.insertIdx (value % count) c) rest

def firstCode : Nat := 128

def firstBias : Nat := 72

def decode? (name : List Char) : Option (List Char) :=
  let numbers := (name.reverse.takeWhile (· != '-')).reverse
  let plain := name.take (name.length - numbers.length - 1)
  if name.head? = some '-' && plain.isEmpty then none
  else insertLoop numbers.length firstBias 0 firstCode plain numbers

/-- Whether a name spells a text with characters outside ASCII, all of them visible and the
first one no combining mark. -/
def isValid (name : List Char) : Bool :=
  match decode? name with
  | none => false
  | some chars =>
    chars.any (firstCode ≤ ·.toNat)
      && chars.all (fun c => c.toNat < firstCode || !Printable.isInvisible c)
      && !chars.head?.any Printable.isCombining

end Punycode

end AdminAccess
