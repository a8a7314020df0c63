/-!
# Reading decimals

The digits of a number are gathered into a significand for as long as it fits into 64 bits. A
further digit of the integer part then only raises the exponent, and a further digit of the fraction
is dropped. The significand is rounded to a double and scaled by one power of ten.
-/

namespace ObjectDocument.Decimal

/-- The largest significand that is gathered. -/
def maxSignificand : Nat := UInt64.size - 1

/-- Digits gathered so far, as `significand · 10 ^ exponent`. -/
structure Gathered where
  significand : Nat
  exponent : Int
deriving DecidableEq, Repr

def Gathered.integerPart (g : Gathered) : List Nat → Gathered
  | [] => g
  | d :: ds =>
    if g.significand * 10 + d ≤ maxSignificand then
      Gathered.integerPart ⟨g.significand * 10 + d, g.exponent⟩ ds
    else ⟨g.significand, g.exponent + (ds.length + 1)⟩

def Gathered.fractionPart (g : Gathered) : List Nat → Gathered
  | [] => g
  | d :: ds =>
    if g.significand * 10 + d ≤ maxSignificand then
      Gathered.fractionPart ⟨g.significand * 10 + d, g.exponent - 1⟩ ds
    else g

def powerOfTen (n : Nat) : Float :=
  Float.ofScientific 1 false n

/-- The largest power of ten that is a finite double. -/
def maxPower : Nat := 308

/-- Scale a double by a negative power of ten, in steps of at most `maxPower`. -/
def scaleDown (x : Float) (n : Nat) : Float :=
  if n ≤ maxPower then x / powerOfTen n
  else if x == 0 then x
  else scaleDown (x / powerOfTen maxPower) (n - maxPower)
termination_by n
decreasing_by simp [maxPower] at *; omega

/-- Scale a double by a power of ten; nothing if the result is too large. -/
def scale? (x : Float) (exponent : Int) : Option Float :=
  if exponent < 0 then some (scaleDown x exponent.natAbs)
  else if exponent.toNat ≤ maxPower then
    let y := x * powerOfTen exponent.toNat
    if y.isInf then none else some y
  else if x == 0 then some x
  else none

/-- The double that gathered digits stand for; nothing if it is too large. -/
def Gathered.toFloat? (g : Gathered) : Option Float :=
  scale? (UInt64.ofNat g.significand).toFloat g.exponent

end ObjectDocument.Decimal
