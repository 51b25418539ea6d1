set_option autoImplicit false

namespace Slideshow.Decimal

inductive Ties where
  | toEven
  | up
deriving DecidableEq, Repr

-- A positive float and the ends of its interval, as numerators over one denominator. The
-- ends belong to the interval if `closed`.
structure Interval where
  value : Nat
  lower : Nat
  upper : Nat
  denominator : Nat
  closed : Bool
deriving DecidableEq, Repr

def tenTo (n : Nat) : Nat := Nat.pow 10 n

def fractionBits (x : Float) : Nat := x.toBits.toNat % 0x10000000000000

def exponentBits (x : Float) : Nat := x.toBits.toNat / 0x10000000000000 % 0x800

def isNegative (x : Float) : Bool := x.toBits.toNat / 0x8000000000000000 = 1

def isZero (x : Float) : Bool := fractionBits x = 0 && exponentBits x = 0

-- A float is `m · 2 ^ (e - 1075)`. In quarters of that unit its neighbours are four away, or
-- two on the lower side if `m` is the least of its binade.
def interval (x : Float) : Interval :=
  let fraction := fractionBits x
  let exponent := max (exponentBits x) 1
  let m := if exponentBits x = 0 then fraction else fraction + 0x10000000000000
  let below := if fraction = 0 ∧ 1 < exponentBits x then 1 else 2
  let scale := Nat.pow 2 (exponent - 1077)
  ⟨4 * m * scale, (4 * m - below) * scale, (4 * m + 2) * scale, Nat.pow 2 (1077 - exponent),
    m % 2 = 0⟩

def Interval.contains (i : Interval) (n : Nat) (exponent : Int) : Bool :=
  let up := tenTo exponent.toNat
  let down := tenTo (-exponent).toNat
  let point := n * up * i.denominator
  if i.closed then i.lower * down ≤ point && point ≤ i.upper * down
  else i.lower * down < point && point < i.upper * down

def leadingZeros (limit : Nat) : Nat → Nat → Nat
  | 0, _ => 0
  | fuel + 1, value => if value * 10 < limit then leadingZeros limit fuel (value * 10) + 1 else 0

def Interval.magnitude (i : Interval) : Int :=
  if i.denominator ≤ i.value then (Nat.toDigits 10 (i.value / i.denominator)).length
  else -(leadingZeros i.denominator 400 i.value)

def Interval.nearest (i : Interval) (ties : Ties) (exponent : Int) : Option Nat :=
  let numerator := i.value * tenTo (-exponent).toNat
  let step := i.denominator * tenTo exponent.toNat
  let low := numerator / step
  let rest := numerator % step
  match i.contains low exponent, i.contains (low + 1) exponent with
  | false, false => none
  | true, false => some low
  | false, true => some (low + 1)
  | true, true =>
      if 2 * rest < step then some low
      else if step < 2 * rest then some (low + 1)
      else match ties with
        | .toEven => some (if low % 2 = 0 then low else low + 1)
        | .up => some (low + 1)

def Interval.search (i : Interval) (ties : Ties) : Nat → Nat → Nat × Int
  | 0, length =>
      let exponent := i.magnitude - length
      ((i.nearest ties exponent).getD 0, exponent)
  | more + 1, length =>
      let exponent := i.magnitude - length
      match i.nearest ties exponent with
      | some n => (n, exponent)
      | none => i.search ties more (length + 1)

-- Digits `d₁d₂…` with the point set before the digit of index `point`: `0.d₁d₂… · 10 ^
-- point`.
structure Digits where
  digits : List Char
  point : Int
deriving DecidableEq, Repr

def withoutTrailingZeros (digits : List Char) : List Char :=
  (digits.reverse.dropWhile (· = '0')).reverse

-- On a grid of decimals with so many digits only the two points around the float can be the
-- nearest. The first grid with such a point in the interval gives the fewest digits; seventeen
-- always suffice. All comparisons are exact.
def shortest (ties : Ties) (x : Float) : Digits :=
  let (n, exponent) := (interval x).search ties 16 1
  let digits := Nat.toDigits 10 n
  ⟨withoutTrailingZeros digits, exponent + digits.length⟩

end Slideshow.Decimal
