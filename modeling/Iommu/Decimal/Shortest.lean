/-
  The shortest decimal that denotes a binary floating-point number.

  A positive double is `m * 2 ^ q`, and the reals that round to it form an interval around it, with
  its ends if `m` is even.  Of the decimals in that interval one with the fewest digits is chosen,
  and of those the nearest.  On the grid of decimals with a given number of digits only the two
  neighbours of the value can be the nearest, so for each count of digits two candidates are tried.
  All of this is exact arithmetic on naturals over one denominator.
-/

namespace Iommu.Decimal

/-- The reals that round to a positive double, and the double itself, over one denominator. -/
structure Neighbourhood where
  low : Nat
  value : Nat
  high : Nat
  den : Nat
  /-- Whether the ends belong to it. -/
  closed : Bool

/-- A power of a base, or one when the exponent is negative.  A quotient of two such powers, one of
    them with the exponent negated, is the power for every exponent. -/
def powerOf (base : Nat) (exponent : Int) : Nat := Nat.pow base exponent.toNat

/-- The neighbourhood of `m * 2 ^ q`; the gap below a power of two is half the gap above it. -/
def neighbourhood (m : Nat) (q : Int) (halfGap : Bool) : Neighbourhood :=
  let scale := powerOf 2 (q - 2)
  { low := (4 * m - if halfGap then 1 else 2) * scale
    value := 4 * m * scale
    high := (4 * m + 2) * scale
    den := powerOf 2 (2 - q)
    closed := m % 2 == 0 }

/-- The significand of a power of two: one above the 52 bits that are stored. -/
def unit : Nat := 0x10000000000000

/-- The neighbourhood of the double with some bits; none for zero, infinities and NaN. -/
def ofBits (bits : UInt64) : Option Neighbourhood :=
  let exponent := bits.toNat / unit % 2048
  let fraction := bits.toNat % unit
  if exponent = 2047 then none
  else if exponent = 0 then
    if fraction = 0 then none else some (neighbourhood fraction (-1074) false)
  else
    some (neighbourhood (unit + fraction) ((exponent : Int) - 1075) (fraction = 0 && exponent ≠ 1))

/-- Digits and a power of ten: `digits * 10 ^ exponent`. -/
structure Scientific where
  digits : Nat
  exponent : Int
deriving DecidableEq

namespace Neighbourhood

/-- Whether `n * 10 ^ exponent` lies in the neighbourhood. -/
def contains (x : Neighbourhood) (exponent : Int) (n : Nat) : Bool :=
  let up := powerOf 10 (-exponent)
  let point := n * (x.den * powerOf 10 exponent)
  if x.closed then x.low * up ≤ point && point ≤ x.high * up
  else x.low * up < point && point < x.high * up

/-- How many times `10 ^ exponent` goes into the value. -/
def floorAt (x : Neighbourhood) (exponent : Int) : Nat :=
  x.value * powerOf 10 (-exponent) / (x.den * powerOf 10 exponent)

/-- Whether the value is in the upper half between its two neighbours on a grid. -/
def nearerAbove (x : Neighbourhood) (exponent : Int) : Bool :=
  let n := x.floorAt exponent
  (2 * n + 1) * (x.den * powerOf 10 exponent) < 2 * (x.value * powerOf 10 (-exponent))

/-- The decimal on a grid that lies in the neighbourhood, the nearer one if there are two. -/
def onGrid (x : Neighbourhood) (exponent : Int) : Option Scientific :=
  let n := x.floorAt exponent
  match x.contains exponent n, x.contains exponent (n + 1) with
  | true, true => some ⟨if x.nearerAbove exponent then n + 1 else n, exponent⟩
  | true, false => some ⟨n, exponent⟩
  | false, true => some ⟨n + 1, exponent⟩
  | false, false => none

/-- The first grid, from coarse to fine, on which a decimal lies in the neighbourhood. -/
def search (x : Neighbourhood) (exponent : Int) : Nat → Option Scientific
  | 0 => none
  | steps + 1 =>
    match x.onGrid exponent with
    | some s => if s.digits = 0 then search x (exponent - 1) steps else some s
    | none => search x (exponent - 1) steps

/-- The shortest decimal in the neighbourhood.  No double reaches ten to the power 309, and no two
    differ by less than ten to the power -325. -/
def shortest (x : Neighbourhood) : Option Scientific := x.search 309 700

end Neighbourhood

/-- The shortest decimal of a positive double. -/
def shortest (x : Float) : Option Scientific := (ofBits x.toBits).bind Neighbourhood.shortest

/-! ## Written form -/

/-- How decimals are written.  The place of the point is counted from the left end of the digits. -/
structure Format where
  /-- The lowest place of the point that is written without a power of ten. -/
  lowest : Int
  /-- The highest such place. -/
  highest : Int
  /-- The text of zero. -/
  zero : String

/-- The digits with a power of ten: one digit before the point, the others behind it. -/
def renderPower (ds : List Char) (exponent : Int) : String :=
  let mantissa := match ds with
    | [] => []
    | [d] => [d]
    | d :: rest => d :: '.' :: rest
  String.ofList mantissa ++ "e" ++ toString exponent

/-- A decimal as text.  One written without a power of ten has a digit on both sides of the point. -/
def Format.render (f : Format) (s : Scientific) : String :=
  let ds := Nat.toDigits 10 s.digits
  let point := s.exponent + ds.length
  if point < f.lowest ∨ f.highest < point then
    renderPower ds (point - 1)
  else if 0 ≤ s.exponent then
    String.ofList (ds ++ List.replicate s.exponent.toNat '0' ++ ['.', '0'])
  else if 0 < point then
    String.ofList (ds.take point.toNat ++ '.' :: ds.drop point.toNat)
  else
    String.ofList (['0', '.'] ++ List.replicate (-point).toNat '0' ++ ds)

/-- A double as text. -/
def Format.renderFloat (f : Format) (x : Float) : String :=
  match shortest x with
  | some s => f.render s
  | none => f.zero

end Iommu.Decimal
