import Slideshow.Project.Geometry

set_option autoImplicit false

namespace Slideshow

open Float.Model (UnpackedFloat Format)
open Float.Model.UnpackedFloat (Sign)

def FloatAlike (x y : Float) : Prop :=
  (x == y) = true ∨ (x.isNaN = true ∧ y.isNaN = true)

inductive Near : UnpackedFloat → UnpackedFloat → Prop where
  | same (u : UnpackedFloat) : Near u u
  | zeros (s t : Sign) : Near (.zero s) (.zero t)

theorem sign_of_compare_eq (s t : Sign) (equal : compare s t = .eq) : s = t := by
  cases s <;> cases t <;> first | rfl | cases equal

theorem compare_then_eq (m n : Nat) (e f : Int)
    (equal : ((compare e f).then (compare m n)) = .eq) : m = n ∧ e = f := by
  obtain ⟨exponents, mantissas⟩ := Ordering.then_eq_eq.mp equal
  exact ⟨Nat.compare_eq_eq.mp mantissas, Int.compare_eq_eq.mp exponents⟩

theorem near_of_compare (u v : UnpackedFloat) (equal : u.compare v = some .eq) : Near u v := by
  cases u with
  | notANumber => cases v <;> cases equal
  | infinity s =>
      cases v with
      | infinity t =>
          rw [sign_of_compare_eq s t (Option.some.inj equal)]
          exact .same _
      | notANumber => cases equal
      | zero t => cases s <;> cases equal
      | finite t n f positive => cases s <;> cases equal
  | zero s =>
      cases v with
      | zero t => exact .zeros s t
      | notANumber => cases equal
      | infinity t => cases t <;> cases equal
      | finite t n f positive => cases t <;> cases equal
  | finite s m e positive =>
      cases v with
      | notANumber => cases equal
      | infinity t => cases t <;> cases equal
      | zero t => cases s <;> cases equal
      | finite t n f positiveToo =>
          cases s <;> cases t
          · obtain ⟨rfl, rfl⟩ := compare_then_eq m n e f
              (Ordering.swap_eq_eq.mp (Option.some.inj equal))
            exact .same _
          · cases equal
          · cases equal
          · obtain ⟨rfl, rfl⟩ := compare_then_eq m n e f (Option.some.inj equal)
            exact .same _

theorem compare_self (u : UnpackedFloat) (number : u.isNaN = false) : u.compare u = some .eq := by
  cases u with
  | notANumber => cases number
  | infinity s => cases s <;> rfl
  | zero s => rfl
  | finite s m e positive =>
      have equal : (compare e e).then (compare m m) = .eq := by simp
      cases s with
      | negative => exact congrArg (fun order => some (Ordering.swap order)) equal
      | positive => exact congrArg some equal

theorem near_compare (u v w z : UnpackedFloat) (left : Near u v) (right : Near w z) :
    u.compare w = v.compare z := by
  cases left with
  | same u =>
      cases right with
      | same w => rfl
      | zeros s t => cases u with
        | finite r m e positive => cases r <;> rfl
        | infinity r => cases r <;> rfl
        | _ => rfl
  | zeros s t =>
      cases right with
      | zeros p q => rfl
      | same w => cases w with
        | finite r m e positive => cases r <;> rfl
        | infinity r => cases r <;> rfl
        | _ => rfl

theorem near_is_nan (u v : UnpackedFloat) (near : Near u v) : u.isNaN = v.isNaN := by
  cases near <;> rfl

theorem beq_iff_compare (x y : Float) :
    (x == y) = true ↔ x.toModel.unpack.compare y.toModel.unpack = some .eq :=
  @beq_iff_eq (Option Ordering) _ _ _ _

theorem alike_iff_near (x y : Float) :
    FloatAlike x y ↔ Near x.toModel.unpack y.toModel.unpack := by
  constructor
  · rintro (equal | ⟨left, right⟩)
    · exact near_of_compare _ _ ((beq_iff_compare x y).mp equal)
    · have atLeft : x.toModel.unpack.isNaN = true := left
      have atRight : y.toModel.unpack.isNaN = true := right
      cases unpackedLeft : x.toModel.unpack <;> rw [unpackedLeft] at atLeft <;> try cases atLeft
      cases unpackedRight : y.toModel.unpack <;> rw [unpackedRight] at atRight <;> try cases atRight
      exact .same _
  · intro near
    cases number : x.toModel.unpack.isNaN with
    | true => exact .inr ⟨number, (near_is_nan _ _ near).symm.trans number⟩
    | false =>
        refine .inl ((beq_iff_compare x y).mpr ?_)
        rw [← near_compare _ _ _ _ (.same _) near]
        exact compare_self _ number

theorem alike_symm (x y : Float) (alike : FloatAlike x y) : FloatAlike y x := by
  have near := (alike_iff_near x y).mp alike
  apply (alike_iff_near y x).mpr
  generalize x.toModel.unpack = u at near ⊢
  generalize y.toModel.unpack = v at near ⊢
  cases near with
  | same u => exact .same u
  | zeros s t => exact .zeros t s

theorem alike_refl (x : Float) : FloatAlike x x :=
  (alike_iff_near x x).mpr (.same _)

theorem unpack_packed_zero (s : Sign) : (Float.Model.pack (.zero s)).unpack = .zero s := by
  cases s <;> rfl

theorem near_pack (u v : UnpackedFloat) (near : Near u v) :
    Near (Float.Model.pack u).unpack (Float.Model.pack v).unpack := by
  cases near with
  | same u => exact .same _
  | zeros s t =>
      rw [unpack_packed_zero, unpack_packed_zero]
      exact .zeros s t

theorem near_add (spec : Format) (u v w z : UnpackedFloat) (left : Near u v) (right : Near w z) :
    Near (u.add spec w) (v.add spec z) := by
  cases left with
  | same u =>
      cases right with
      | same w => exact .same _
      | zeros s t => cases u with
        | zero r => cases r <;> cases s <;> cases t <;> constructor
        | _ => exact .same _
  | zeros s t =>
      cases right with
      | zeros p q => cases s <;> cases t <;> cases p <;> cases q <;> constructor
      | same w => cases w with
        | zero r => cases r <;> cases s <;> cases t <;> constructor
        | _ => exact .same _

theorem near_sub (spec : Format) (u v w z : UnpackedFloat) (left : Near u v) (right : Near w z) :
    Near (u.sub spec w) (v.sub spec z) := by
  cases left with
  | same u =>
      cases right with
      | same w => exact .same _
      | zeros s t => cases u with
        | zero r => cases r <;> cases s <;> cases t <;> constructor
        | _ => exact .same _
  | zeros s t =>
      cases right with
      | zeros p q => cases s <;> cases t <;> cases p <;> cases q <;> constructor
      | same w => cases w with
        | zero r => cases r <;> cases s <;> cases t <;> constructor
        | _ => exact .same _

theorem alike_add (x y a b : Float) (left : FloatAlike x y) (right : FloatAlike a b) :
    FloatAlike (x + a) (y + b) :=
  (alike_iff_near _ _).mpr (near_pack _ _ (near_add Format.binary64 _ _ _ _
    ((alike_iff_near x y).mp left) ((alike_iff_near a b).mp right)))

theorem alike_sub (x y a b : Float) (left : FloatAlike x y) (right : FloatAlike a b) :
    FloatAlike (x - a) (y - b) :=
  (alike_iff_near _ _).mpr (near_pack _ _ (near_sub Format.binary64 _ _ _ _
    ((alike_iff_near x y).mp left) ((alike_iff_near a b).mp right)))

theorem number_beq_self (x : Float) (number : x.isNaN = false) : (x == x) = true := by
  rcases alike_refl x with equal | ⟨nan, _⟩
  · exact equal
  · rw [number] at nan
    cases nan

theorem finite_beq_self (x : Float) (finite : x.isFinite = true) : (x == x) = true := by
  have unpackedFinite : x.toModel.unpack.isFinite = true := finite
  have number : x.toModel.unpack.isNaN = false := by
    cases unpacked : x.toModel.unpack with
    | notANumber => rw [unpacked] at unpackedFinite; cases unpackedFinite
    | _ => rfl
  exact number_beq_self x number

theorem beq_symm (x y : Float) (equal : (x == y) = true) : (y == x) = true := by
  rw [beq_iff_compare] at equal ⊢
  generalize x.toModel.unpack = u at equal ⊢
  generalize y.toModel.unpack = v at equal ⊢
  cases near_of_compare u v equal with
  | same u => exact equal
  | zeros s t => rfl

theorem alike_is_nan (x y : Float) (alike : FloatAlike x y) : x.isNaN = y.isNaN :=
  near_is_nan _ _ ((alike_iff_near x y).mp alike)

theorem alike_compare (x y a b : Float) (left : FloatAlike x y) (right : FloatAlike a b) :
    x.toModel.unpack.compare a.toModel.unpack = y.toModel.unpack.compare b.toModel.unpack :=
  near_compare _ _ _ _ ((alike_iff_near x y).mp left) ((alike_iff_near a b).mp right)

theorem lt_iff_compare (x y : Float) :
    x < y ↔ x.toModel.unpack.compare y.toModel.unpack = some .lt :=
  decide_eq_true_iff.trans (@beq_iff_eq (Option Ordering) _ _ _ _)

theorem le_iff_compare (x y : Float) :
    x ≤ y ↔ (x.toModel.unpack.compare y.toModel.unpack).any (·.isLE) = true :=
  decide_eq_true_iff

theorem alike_lt (x y a b : Float) (left : FloatAlike x y) (right : FloatAlike a b) :
    x < a ↔ y < b := by
  rw [lt_iff_compare, lt_iff_compare, alike_compare x y a b left right]

theorem alike_le (x y a b : Float) (left : FloatAlike x y) (right : FloatAlike a b) :
    x ≤ a ↔ y ≤ b := by
  rw [le_iff_compare, le_iff_compare, alike_compare x y a b left right]

theorem alike_lesser (x y a b : Float) (left : FloatAlike x y) (right : FloatAlike a b) :
    FloatAlike (lesser x a) (lesser y b) := by
  unfold lesser
  simp only [alike_is_nan x y left, alike_is_nan a b right, alike_lt x y a b left right]
  split
  · exact right
  · split
    · exact left
    · split
      · exact left
      · exact right

theorem alike_greater (x y a b : Float) (left : FloatAlike x y) (right : FloatAlike a b) :
    FloatAlike (greater x a) (greater y b) := by
  unfold greater
  simp only [alike_is_nan x y left, alike_is_nan a b right, alike_lt a b x y right left]
  split
  · exact right
  · split
    · exact left
    · split
      · exact left
      · exact right

theorem unpacked_is_number (b : BitVec Format.binary64.numBits)
    (number : UnpackedFloat.unpackExponent b ≠ -1#_ ∨ UnpackedFloat.unpackMantissa b = 0#_) :
    (UnpackedFloat.unpack Format.binary64 b).isNaN = false := by
  unfold UnpackedFloat.unpack
  dsimp only
  by_cases full : UnpackedFloat.unpackExponent b = -1#_
  · rw [if_pos full, if_pos (number.resolve_left fun other => other full)]
    rfl
  rw [if_neg full]
  by_cases least : UnpackedFloat.unpackExponent b = 0#_
  · rw [if_pos least]
    by_cases zero : UnpackedFloat.unpackMantissa b = 0#_
    · rw [dif_pos zero]
      rfl
    · rw [dif_neg zero]
      rfl
  · rw [if_neg least]
    rfl

theorem pack_is_number (u : UnpackedFloat) (number : u.isNaN = false) :
    (Float.Model.pack u).unpack.isNaN = false := by
  apply unpacked_is_number
  show UnpackedFloat.unpackExponent (UnpackedFloat.pack Format.binary64 u) ≠ _ ∨
    UnpackedFloat.unpackMantissa (UnpackedFloat.pack Format.binary64 u) = _
  fun_cases UnpackedFloat.pack with
  | case1 => cases number
  | case2 s => exact .inr UnpackedFloat.unpackMantissa_packComponents
  | case3 s => exact .inr UnpackedFloat.unpackMantissa_packComponents
  | case4 s m e positive biased large => exact .inr UnpackedFloat.unpackMantissa_packComponents
  | case5 s m e positive log biased small normal =>
      left
      rw [UnpackedFloat.unpackExponent_packComponents]
      intro full
      have value : biased % 2048 = 2047 := congrArg BitVec.toNat full
      have below : ¬ 2048 ≤ biased + 1 := small
      omega
  | case6 s m e positive log biased small subnormal =>
      left
      rw [UnpackedFloat.unpackExponent_packComponents]
      decide

theorem rounded_is_number (spec : Format) (sign : Sign) (m : Nat) (e : Int)
    (accuracy : UnpackedFloat.Accuracy) :
    (UnpackedFloat.roundWithAccuracy spec sign m e accuracy).isNaN = false := by
  fun_cases UnpackedFloat.roundWithAccuracy <;> rfl

theorem scientific_is_number (spec : Format) (m : Nat) (e : Int) (whole : 0 ≤ e) :
    (UnpackedFloat.ofScientific spec m e).isNaN = false := by
  unfold UnpackedFloat.ofScientific
  by_cases zero : m = 0
  · rw [dif_pos zero]
    rfl
  rw [dif_neg zero]
  by_cases large : e > 2 ^ spec.exponentBits
  · rw [if_pos large]
    rfl
  rw [if_neg large]
  have notSmall : ¬ e < -((2 ^ spec.exponentBits : Int) + m.log2) := by
    have positive : (0 : Int) < 2 ^ spec.exponentBits := Int.pow_pos (by decide)
    omega
  rw [if_neg notSmall, if_pos whole]
  exact rounded_is_number _ _ _ _ _

theorem of_int_is_number (n : Int) (wide : 0x8000000000000000 ≤ n) : (Float.ofInt n).isNaN = false := by
  obtain ⟨m, rfl⟩ := Int.eq_ofNat_of_zero_le (show 0 ≤ n by omega)
  have slow : ¬ (m < 9007199254740992 ∧ 0 ≤ 22) := by omega
  have rounded : Float.ofNat m = Float.ofModel (Float.Model.ofScientific m 0) := dif_neg slow
  have same : Float.ofInt (m : Int) = Float.ofNat m := rfl
  rw [same, rounded]
  exact pack_is_number _ (scientific_is_number _ _ _ (Int.le_refl 0))

end Slideshow
