import BearerAuth.Decimal.Double

/-!
# Shortest decimals

The decimal with the fewest digits that rounds back to a floating-point number,
and of several the one nearest to it.

- `Double.shortest`: its digits, as a number, and its power of ten.
- `Double.text`: its written form: positional from 10^-5 up to 10^16, with at
  least one decimal place, and with an exponent outside of that.
-/

namespace BearerAuth.Decimal.Double

/-- A positive number and the ends of the interval that rounds to it, over one
denominator. The ends belong to the interval if `closed` holds. -/
structure Interval where
  low : Nat
  middle : Nat
  high : Nat
  denominator : Nat
  closed : Bool

/-- The interval that rounds to a positive number. Below a power of two the
numbers lie closer. -/
def interval (d : Double) : Interval :=
  let up := 1 <<< (d.exponent - 2).toNat
  let narrow := d.significand == 0x10000000000000 && leastExponent < d.exponent
  { low := (4 * d.significand - if narrow then 1 else 2) * up
    middle := 4 * d.significand * up
    high := (4 * d.significand + 2) * up
    denominator := 1 <<< (2 - d.exponent).toNat
    closed := d.significand % 2 == 0 }

/-- Whether `digits * 10 ^ exponent` lies in the interval. -/
def Interval.holds (i : Interval) (digits : Nat) (exponent : Int) : Bool :=
  let value := digits * Nat.pow 10 exponent.toNat * i.denominator
  let scale := Nat.pow 10 (-exponent).toNat
  if i.closed then i.low * scale ≤ value && value ≤ i.high * scale
  else i.low * scale < value && value < i.high * scale

/-- The multiple of `10 ^ exponent` in the interval that is nearest to its
middle. -/
def Interval.pick? (i : Interval) (exponent : Int) : Option Nat :=
  let num := i.middle * Nat.pow 10 (-exponent).toNat
  let den := i.denominator * Nat.pow 10 exponent.toNat
  let below := num / den
  let nearer := roundQuotient num den
  let farther := if nearer == below then below + 1 else below
  if i.holds nearer exponent then some nearer
  else if i.holds farther exponent then some farther
  else none

/-- The first hit on coarser to finer grids, starting with the multiples of `10
^ exponent`. -/
def Interval.search (i : Interval) : (fuel : Nat) → (exponent : Int) → Nat × Int
  | 0, exponent => (roundQuotient i.middle i.denominator, exponent)
  | fuel + 1, exponent =>
    match i.pick? exponent with
    | some 0 => i.search fuel (exponent - 1)
    | some digits => (digits, exponent)
    | none => i.search fuel (exponent - 1)

/-- The digits without zeros at the end, which go over to the exponent. -/
def stripZeros : (fuel : Nat) → Nat × Int → Nat × Int
  | 0, p => p
  | fuel + 1, (digits, exponent) =>
    if digits % 10 = 0 then stripZeros fuel (digits / 10, exponent + 1) else (digits, exponent)

/-- The fewest digits that round back to a positive number, and their power of
ten. No grid coarser than the number and none finer than seventeen digits has to
be looked at. -/
def shortest (d : Double) : Nat × Int :=
  let i := d.interval
  let size : Int := floorLog2 i.middle i.denominator * 30103 / 100000
  stripZeros 20 (i.search 24 (size + 2))

/-- The written form of the number. -/
def text (d : Double) : String :=
  let sign := if d.negative then "-" else ""
  if d.significand = 0 then sign ++ "0.0"
  else
    let (digits, exponent) := d.shortest
    let spelled := (Nat.toDigits 10 digits)
    let point : Int := spelled.length + exponent
    let body : List Char :=
      if 0 ≤ exponent ∧ point ≤ 16 then
        spelled ++ List.replicate exponent.toNat '0' ++ ['.', '0']
      else if 0 < point ∧ point ≤ 16 then
        spelled.take point.toNat ++ '.' :: spelled.drop point.toNat
      else if -5 < point ∧ point ≤ 0 then
        '0' :: '.' :: List.replicate (-point).toNat '0' ++ spelled
      else
        spelled.take 1 ++ (if spelled.length = 1 then [] else '.' :: spelled.drop 1) ++
          'e' :: (toString (point - 1)).toList
    sign ++ String.ofList body

end BearerAuth.Decimal.Double
