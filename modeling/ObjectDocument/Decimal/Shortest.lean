/-!
# Shortest decimals

Every positive finite double is an integer times a power of two. The decimals that read back as
the double form an interval around it, which reaches half way to each neighbour and holds its ends
when the significand is even. Its shortest decimal is the point of the coarsest decimal grid that
falls into the interval, the nearer of two, and the even one of two that are equally near.
-/

namespace ObjectDocument.Decimal

/-- The magnitude of a finite double, as `significand · 2 ^ exponent`. -/
structure Binary where
  significand : Nat
  exponent : Int
  /-- Whether the double below is at half the usual distance. -/
  narrowBelow : Bool
deriving DecidableEq, Repr

/-- The weight of the lowest bit of the exponent, above the bits of the significand. -/
def exponentUnit : Nat := Nat.pow 2 52

/-- The weight of the bit of the sign. -/
def signUnit : Nat := Nat.pow 2 63

/-- The magnitude of a finite double, from its bits. -/
def Binary.ofBits (bits : UInt64) : Binary :=
  let fraction : Nat := bits.toNat % exponentUnit
  let biased : Nat := bits.toNat % signUnit / exponentUnit
  if biased = 0 then ⟨fraction, -1074, false⟩
  else ⟨exponentUnit + fraction, (biased : Int) - 1075, fraction == 0 && biased > 1⟩

/-- A positive decimal, `digits · 10 ^ exponent`. -/
structure Scaled where
  digits : Nat
  exponent : Int
deriving DecidableEq, Repr

/-- The fraction `numerator · 2 ^ exponent`, with both parts integers. -/
def fraction (numerator : Nat) (exponent : Int) : Nat × Nat :=
  if 0 ≤ exponent then (numerator * Nat.pow 2 exponent.toNat, 1)
  else (numerator, Nat.pow 2 (-exponent).toNat)

/-- The four quarters of a double's unit that bound the decimals that read back as it. -/
structure Interval where
  lower : Nat
  value : Nat
  upper : Nat
  /-- The common denominator of the three. -/
  denominator : Nat
  /-- Whether the ends belong to the interval. -/
  closed : Bool

/-- The interval of the decimals that read back as the double. -/
def Binary.interval (b : Binary) : Interval :=
  let scale := fraction 1 (b.exponent - 2)
  { lower := (4 * b.significand - if b.narrowBelow then 1 else 2) * scale.1
    value := 4 * b.significand * scale.1
    upper := (4 * b.significand + 2) * scale.1
    denominator := scale.2
    closed := b.significand % 2 == 0 }

/-- The interval with one grid step of `10 ^ exponent` as its unit. -/
def Interval.rescale (i : Interval) (exponent : Int) : Interval :=
  if 0 ≤ exponent then { i with denominator := i.denominator * Nat.pow 10 exponent.toNat }
  else
    let factor := Nat.pow 10 (-exponent).toNat
    { i with lower := i.lower * factor, value := i.value * factor, upper := i.upper * factor }

/-- Whether an integer lies in the interval. -/
def Interval.holds (i : Interval) (d : Nat) : Bool :=
  let p := d * i.denominator
  if i.closed then i.lower ≤ p && p ≤ i.upper else i.lower < p && p < i.upper

/-- The integer of the interval that is nearest to its value, of the two that enclose the value. -/
def Interval.nearest? (i : Interval) : Option Nat :=
  let d := i.value / i.denominator
  match i.holds d, i.holds (d + 1) with
  | false, false => none
  | true, false => some d
  | false, true => some (d + 1)
  | true, true =>
    let below := i.value - d * i.denominator
    let above := (d + 1) * i.denominator - i.value
    if below < above then some d
    else if above < below then some (d + 1)
    else if d % 2 = 0 then some d else some (d + 1)

/-- The first hit on the grids `10 ^ exponent`, `10 ^ (exponent - 1)`, and so on. -/
def coarsest (i : Interval) : Nat → Int → Option Scaled
  | 0, _ => none
  | steps + 1, exponent =>
    match (i.rescale exponent).nearest? with
    | some d => some ⟨d, exponent⟩
    | none => coarsest i steps (exponent - 1)

/-- The largest exponent of a grid that can hold a double. -/
def largestExponent : Int := 309

/-- The number of grids to try: the finest holds the smallest positive double. -/
def gridCount : Nat := 640

def Binary.shortest (b : Binary) : Scaled :=
  (coarsest b.interval gridCount largestExponent).getD ⟨0, 0⟩

end ObjectDocument.Decimal
