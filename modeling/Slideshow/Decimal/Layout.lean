import Slideshow.Decimal.Shortest

set_option autoImplicit false

namespace Slideshow.Decimal

structure Layout where
  ties : Ties
  positional : Int → Bool
  afterWhole : List Char

def zeros (n : Nat) : List Char := List.replicate n '0'

def positional (layout : Layout) (d : Digits) : List Char :=
  if d.point ≤ 0 then '0' :: '.' :: (zeros (-d.point).toNat ++ d.digits)
  else
    let whole := d.point.toNat
    if d.digits.length ≤ whole then d.digits ++ zeros (whole - d.digits.length) ++ layout.afterWhole
    else d.digits.take whole ++ '.' :: d.digits.drop whole

def scientific (d : Digits) : List Char :=
  let exponent := d.point - 1
  let sign := if exponent < 0 then '-' else '+'
  let tail := match d.digits.drop 1 with
    | [] => []
    | rest => '.' :: rest
  d.digits.take 1 ++ tail ++ 'e' :: sign :: Nat.toDigits 10 exponent.natAbs

def writeFinite (layout : Layout) (x : Float) : List Char :=
  let sign := if isNegative x then ['-'] else []
  if isZero x then sign ++ '0' :: layout.afterWhole
  else
    let d := shortest layout.ties x
    if layout.positional (d.point - 1) then sign ++ positional layout d else sign ++ scientific d

end Slideshow.Decimal
