import Slideshow.Proofs.ValueAlike

set_option autoImplicit false

namespace Slideshow

open Float.Model (UnpackedFloat)

theorem near_trans (u v w : UnpackedFloat) (left : Near u v) (right : Near v w) : Near u w := by
  cases left with
  | same u => exact right
  | zeros s t =>
      cases right with
      | same => exact .zeros s t
      | zeros _ r => exact .zeros s r

theorem float_alike_trans (x y z : Float) (left : FloatAlike x y) (right : FloatAlike y z) :
    FloatAlike x z := by
  rw [alike_iff_near] at left right ⊢
  exact near_trans _ _ _ left right

theorem beq_is_number (x y : Float) (equal : (x == y) = true) : x.isNaN = false := by
  cases nan : x.isNaN with
  | false => rfl
  | true =>
      have unpackedNan : x.toModel.unpack.isNaN = true := nan
      rw [beq_iff_compare] at equal
      generalize x.toModel.unpack = u at equal unpackedNan
      generalize y.toModel.unpack = v at equal
      cases u with
      | notANumber => cases v <;> cases equal
      | _ => cases unpackedNan

namespace Value

def Normal (value : Value) : Prop :=
  value.normalized = value

theorem twin_trans (a b c : Value) (left : Twin a b) (right : Twin b c) : Twin a c := by
  cases left with
  | null => exact right
  | bool b => exact right
  | text s => exact right
  | integer a b n knownLeft knownRight =>
      have same := twin_as_int b c right
      exact .integer a c n knownLeft (same.symm.trans knownRight)
  | float x y alike =>
      cases right with
      | integer _ _ n known => cases known
      | float _ z alikeToo => exact .float x z (float_alike_trans x y z alike alikeToo)
  | structured m n alike =>
      cases right with
      | integer _ _ n known => cases known
      | structured _ k alikeToo => exact .structured m k (Json.alike_trans _ _ _ alike alikeToo)

section Normal

variable {a b c : Value}

theorem twin_of_normal (left : a.Normal) (right : b.Normal) (same : (a == b) = true) : Twin a b := by
  have twin := normalized_twin a b same
  rwa [left, right] at twin

theorem number_of_beq (x : Float) (normal : b.Normal) (same : (Value.float x == b) = true) :
    x.isNaN = false := by
  have float : Normal (.float x) := rfl
  cases twin_of_normal float normal same with
  | integer _ _ n known => cases known
  | float _ y _ => exact beq_is_number x y same

theorem beq_symm_of_normal (left : a.Normal) (right : b.Normal) (same : (a == b) = true) :
    (b == a) = true := by
  rcases twin_alike b a (twin_symm a b (twin_of_normal left right same)) with
    turned | ⟨x, y, rfl, rfl, nan, nanToo⟩
  · exact turned
  · rw [number_of_beq y right same] at nanToo
    cases nanToo

theorem beq_trans_of_normal (left : a.Normal) (middle : b.Normal) (right : c.Normal)
    (same : (a == b) = true) (sameToo : (b == c) = true) : (a == c) = true := by
  have twin := twin_trans a b c (twin_of_normal left middle same) (twin_of_normal middle right sameToo)
  rcases twin_alike a c twin with equal | ⟨x, y, rfl, rfl, nan, _⟩
  · exact equal
  · rw [number_of_beq x middle same] at nan
    cases nan

def Matches (a b : Value) : Prop :=
  a = b ∨ (a == b) = true

theorem matches_beq_trans (left : a.Normal) (middle : b.Normal) (right : c.Normal) (matched : a.Matches b)
    (same : (b == c) = true) : (a == c) = true := by
  rcases matched with rfl | equal
  · exact same
  · exact beq_trans_of_normal left middle right equal same

theorem matches_beq_euclid (left : a.Normal) (middle : b.Normal) (right : c.Normal) (matched : a.Matches b)
    (same : (a == c) = true) : (b == c) = true := by
  rcases matched with rfl | equal
  · exact same
  · exact beq_trans_of_normal middle left right (beq_symm_of_normal left middle equal) same

end Normal

end Value

end Slideshow
