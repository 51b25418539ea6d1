import Slideshow.Proofs.Document.Restored
import Slideshow.Proofs.ValueMeaning

set_option autoImplicit false

namespace Slideshow.Value

def Canonical : Value → Prop
  | .int64 n => fitsInt32 n.toInt = false
  | .structured node => node.isScalar = false
  | _ => True

theorem canonical_of_int64 (n : Int64) : (ofInt64 n).Canonical := by
  unfold ofInt64
  cases narrow : fitsInt32 n.toInt with
  | true => exact trivial
  | false => exact narrow

theorem canonical_of_plain_number (n : Number) : (ofNumber n).Canonical := by
  cases n with
  | float x finite => trivial
  | int n inRange =>
      rw [of_number_int]
      split
      · exact canonical_of_int64 _
      · trivial

theorem canonical_of_node (node : Node) : (ofNode node).Canonical := by
  obtain ⟨tree, canonical⟩ := node
  cases tree with
  | number n => exact canonical_of_plain_number n
  | list elements => exact rfl
  | object members => exact rfl
  | _ => trivial

theorem normalized_canonical (value : Value) : value.normalized.Canonical := by
  cases value with
  | int64 n => exact canonical_of_int64 n
  | structured node => exact canonical_of_node node
  | _ => trivial

theorem normal_iff_canonical (value : Value) : value.Normal ↔ value.Canonical := by
  constructor
  · intro normal
    rw [← show value.normalized = value from normal]
    exact normalized_canonical value
  · intro canonical
    cases value with
    | int64 n => exact if_neg (Bool.eq_false_iff.mp canonical)
    | structured node =>
        obtain ⟨tree, sorted⟩ := node
        cases tree <;> first | rfl | cases canonical
    | _ => rfl

-- What a tree stands for: the narrowest integer there is, a float where there is none, and a node
-- only for a list or an object.
inductive Decodes : Json → Value → Prop where
  | null : Decodes .null .null
  | bool (b : Bool) : Decodes (.bool b) (.bool b)
  | text (s : String) : Decodes (.text s) (.text s)
  | narrow (n : Int) (inRange : -0x8000000000000000 ≤ n ∧ n < 0x10000000000000000) (m : Int32)
      (whole : m.toInt = n) : Decodes (.number (.int n inRange)) (.int32 m)
  | wide (n : Int) (inRange : -0x8000000000000000 ≤ n ∧ n < 0x10000000000000000) (m : Int64)
      (whole : m.toInt = n) (beyond : ∀ k : Int32, k.toInt ≠ n) :
      Decodes (.number (.int n inRange)) (.int64 m)
  | huge (n : Int) (inRange : -0x8000000000000000 ≤ n ∧ n < 0x10000000000000000)
      (beyond : ∀ k : Int64, k.toInt ≠ n) : Decodes (.number (.int n inRange)) (.float (Float.ofInt n))
  | float (x : Float) (finite : x.isFinite = true) : Decodes (.number (.float x finite)) (.float x)
  | list (elements : List Json) : Decodes (.list elements) (.structured (.ofJson (.list elements)))
  | object (members : List (String × Json)) :
      Decodes (.object members) (.structured (.ofJson (.object members)))

theorem fits_int32_iff (n : Int) : fitsInt32 n = true ↔ ∃ m : Int32, m.toInt = n := by
  simp only [fitsInt32, Bool.and_eq_true, decide_eq_true_eq]
  constructor
  · intro fits
    exact ⟨Int32.ofInt n, Int32.toInt_ofInt_of_le (by omega) (by omega)⟩
  · rintro ⟨m, rfl⟩
    have least := m.le_toInt
    have most := m.toInt_lt
    omega

theorem fits_int64_iff (n : Int) : fitsInt64 n = true ↔ ∃ m : Int64, m.toInt = n := by
  simp only [fitsInt64, Bool.and_eq_true, decide_eq_true_eq]
  constructor
  · intro fits
    exact ⟨Int64.ofInt n, Int64.toInt_ofInt_of_le (by omega) (by omega)⟩
  · rintro ⟨m, rfl⟩
    have least := m.le_toInt
    have most := m.toInt_lt
    omega

theorem of_int64_narrow (m : Int32) (n : Int64) (whole : m.toInt = n.toInt) : ofInt64 n = .int32 m := by
  rw [ofInt64, if_pos ((fits_int32_iff n.toInt).mpr ⟨m, whole⟩), ← whole, Int32.ofInt_toInt]

theorem of_int64_wide (n : Int64) (beyond : ∀ k : Int32, k.toInt ≠ n.toInt) : ofInt64 n = .int64 n := by
  have wide : ¬ fitsInt32 n.toInt = true := fun fits =>
    have ⟨m, whole⟩ := (fits_int32_iff n.toInt).mp fits
    beyond m whole
  rw [ofInt64, if_neg wide]

theorem of_number_int64 (m : Int64) (n : Int) (inRange : -0x8000000000000000 ≤ n ∧ n < 0x10000000000000000)
    (whole : m.toInt = n) : ofNumber (.int n inRange) = ofInt64 m := by
  subst whole
  exact of_number_of_int64 m

theorem of_number_huge (n : Int) (inRange : -0x8000000000000000 ≤ n ∧ n < 0x10000000000000000)
    (beyond : ∀ k : Int64, k.toInt ≠ n) : ofNumber (.int n inRange) = .float (Float.ofInt n) := by
  have huge : ¬ fitsInt64 n = true := fun fits =>
    have ⟨m, whole⟩ := (fits_int64_iff n).mp fits
    beyond m whole
  rw [of_number_int, if_neg huge]

theorem of_integer_decodes (n : Int) (inRange : -0x8000000000000000 ≤ n ∧ n < 0x10000000000000000) :
    Decodes (.number (.int n inRange)) (ofNumber (.int n inRange)) := by
  by_cases fits : ∃ m : Int64, m.toInt = n
  · obtain ⟨m, whole⟩ := fits
    rw [of_number_int64 m n inRange whole]
    by_cases narrow : ∃ k : Int32, k.toInt = n
    · obtain ⟨k, same⟩ := narrow
      rw [of_int64_narrow k m (same.trans whole.symm)]
      exact .narrow n inRange k same
    · have beyond : ∀ k : Int32, k.toInt ≠ n := not_exists.mp narrow
      rw [of_int64_wide m (whole ▸ beyond)]
      exact .wide n inRange m whole beyond
  · have beyond : ∀ m : Int64, m.toInt ≠ n := not_exists.mp fits
    rw [of_number_huge n inRange beyond]
    exact .huge n inRange beyond

theorem of_json_decodes (json : Json) : Decodes json (ofJson json) := by
  cases json with
  | null => exact .null
  | bool b => exact .bool b
  | text s => exact .text s
  | list elements => exact .list elements
  | object members => exact .object members
  | number n =>
      cases n with
      | int n inRange => exact of_integer_decodes n inRange
      | float x finite => exact .float x finite

theorem decodes_unique (json : Json) (value : Value) (decodes : Decodes json value) :
    value = ofJson json := by
  cases decodes with
  | narrow n inRange m whole =>
      have same : m.toInt64.toInt = n := by rw [Int32.toInt_toInt64, whole]
      rw [of_json_number, of_number_int64 m.toInt64 n inRange same, of_int64_of_int32]
  | wide n inRange m whole beyond =>
      rw [of_json_number, of_number_int64 m n inRange whole, of_int64_wide m (whole ▸ beyond)]
  | huge n inRange beyond => exact (of_number_huge n inRange beyond).symm
  | _ => rfl

theorem written_and_read_iff (value : Value) :
    ofJson value.toJson = value.normalized ↔ ∀ x, value = .float x → x.isFinite = true := by
  cases value with
  | float x =>
      by_cases finite : x.isFinite = true
      · exact iff_of_true (by rw [toJson, Json.of_float_finite x finite]; rfl) fun y same => by
          cases same
          exact finite
      · refine iff_of_false (fun same => ?_) fun finitely => finite (finitely x rfl)
        rw [toJson, Json.of_float_not_finite x finite] at same
        cases same
  | int32 n => exact iff_of_true ((of_number_of_int64 n.toInt64).trans (of_int64_of_int32 n)) fun _ same => by cases same
  | int64 n => exact iff_of_true (of_number_of_int64 n) fun _ same => by cases same
  | structured node => exact iff_of_true (of_json_canonical node.tree node.canonical) fun _ same => by cases same
  | _ => exact iff_of_true rfl fun _ same => by cases same

theorem scalar_meaning_beq (node : Node) (scalar : node.isScalar = true) :
    alikePlain (ofNode node) (ofNode node) = true := by
  obtain ⟨tree, canonical⟩ := node
  cases tree with
  | null => rfl
  | bool b => exact decide_eq_true rfl
  | text s => exact decide_eq_true rfl
  | number n => exact number_value_beq n
  | list elements => cases scalar
  | object members => cases scalar

theorem node_beq_meaning (node : Node) : (Value.structured node == ofNode node) = true := by
  cases scalar : node.isScalar with
  | false =>
      rw [of_composite node scalar]
      exact node.tree.alike_self
  | true =>
      rw [beq_node_plain node _ (of_scalar_plain node scalar), scalar]
      exact scalar_meaning_beq node scalar

theorem beq_normalized_iff (value : Value) :
    (value == value.normalized) = true ↔ ∀ x, value = .float x → x.isNaN = false := by
  cases value with
  | float x =>
      constructor
      · intro same y equal
        cases equal
        exact beq_is_number x x same
      · exact fun number => number_beq_self x (number x rfl)
  | null => exact iff_of_true rfl fun _ same => by cases same
  | bool b => exact iff_of_true (decide_eq_true rfl) fun _ same => by cases same
  | text s => exact iff_of_true (decide_eq_true rfl) fun _ same => by cases same
  | int32 n => exact iff_of_true (integer_alike _ _ n.toInt rfl rfl) fun _ same => by cases same
  | int64 n => exact iff_of_true (integer_alike _ _ n.toInt rfl (as_int_of_int64 n)) fun _ same => by cases same
  | structured node => exact iff_of_true (node_beq_meaning node) fun _ same => by cases same

/-- Bringing a value into normal form is one trip through JSON, but for floats that are not finite;
it is done once and keeps the meaning, but for floats that are no number. What is read from JSON is
in canonical form. -/
theorem normalizing_is_one_trip (value : Value) (json : Json) :
    (ofJson value.toJson = value.normalized ↔ ∀ x, value = .float x → x.isFinite = true) ∧
    value.normalized.normalized = value.normalized ∧
    ((value == value.normalized) = true ↔ ∀ x, value = .float x → x.isNaN = false) ∧
    (ofJson json).Canonical ∧ ∀ read, Decodes json read ↔ read = ofJson json := by
  refine ⟨written_and_read_iff value, normalized_normalized value, beq_normalized_iff value,
    canonical_of_node _, fun read => ⟨decodes_unique json read, ?_⟩⟩
  rintro rfl
  exact of_json_decodes json

end Slideshow.Value
