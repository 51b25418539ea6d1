import Slideshow.Proofs.FloatAlike
import Mathlib.Data.List.Forall2

set_option autoImplicit false

namespace Slideshow

theorem number_alike_self (n : Number) : n.alike n = true := by
  cases n with
  | int => simp [Number.alike]
  | float x finite => exact finite_beq_self x finite

theorem float_beq_congr (x y z : Float) (equal : (x == y) = true) : (x == z) = (y == z) := by
  rw [Bool.eq_iff_iff, beq_iff_compare, beq_iff_compare,
    alike_compare x y z z (.inl equal) (alike_refl z)]

theorem number_alike_congr (a b c : Number) (same : a.alike b = true) : a.alike c = b.alike c := by
  cases a with
  | int m inRange =>
      cases b with
      | int n inRangeToo =>
          obtain rfl : m = n := by simpa [Number.alike] using same
          rfl
      | float y finite => cases same
  | float x finite =>
      cases b with
      | int n inRange => cases same
      | float y finiteToo =>
          cases c with
          | int => rfl
          | float z => exact float_beq_congr x y z same

namespace Json

mutual
theorem alike_self : (json : Json) → json.alike json = true
  | .null => rfl
  | .bool b => by simp [alike]
  | .number n => number_alike_self n
  | .text s => by simp [alike]
  | .list elements => alike_lists_self elements
  | .object members => alike_members_self members

theorem alike_lists_self : (elements : List Json) → alikeLists elements elements = true
  | [] => rfl
  | element :: rest => by simp [alikeLists, alike_self element, alike_lists_self rest]

theorem alike_members_self : (members : List (String × Json)) → alikeMembers members members = true
  | [] => rfl
  | (name, value) :: rest => by simp [alikeMembers, alike_self value, alike_members_self rest]
end

-- Equal trees are equal to the same trees, and so equality of trees is symmetric and transitive.
mutual
theorem alike_congr : (a b c : Json) → a.alike b = true → a.alike c = b.alike c
  | .null, b, c, same => by cases b <;> first | rfl | cases same
  | .bool p, b, c, same => by
      cases b with
      | bool q =>
          obtain rfl : p = q := by simpa [alike] using same
          rfl
      | _ => cases same
  | .number m, b, c, same => by
      cases b with
      | number n => cases c <;> first | rfl | exact number_alike_congr m n _ same
      | _ => cases same
  | .text s, b, c, same => by
      cases b with
      | text t =>
          obtain rfl : s = t := by simpa [alike] using same
          rfl
      | _ => cases same
  | .list elements, b, c, same => by
      cases b with
      | list others => cases c <;> first | rfl | exact alike_lists_congr elements others _ same
      | _ => cases same
  | .object members, b, c, same => by
      cases b with
      | object others => cases c <;> first | rfl | exact alike_members_congr members others _ same
      | _ => cases same

theorem alike_lists_congr : (as bs cs : List Json) → alikeLists as bs = true →
    alikeLists as cs = alikeLists bs cs
  | [], bs, cs, same => by
      cases bs with
      | nil => rfl
      | cons => cases same
  | a :: as, bs, cs, same => by
      cases bs with
      | nil => cases same
      | cons b bs =>
          obtain ⟨first, rest⟩ := Bool.and_eq_true_iff.mp same
          cases cs with
          | nil => rfl
          | cons c cs => rw [alikeLists, alikeLists, alike_congr a b c first, alike_lists_congr as bs cs rest]

theorem alike_members_congr : (as bs cs : List (String × Json)) → alikeMembers as bs = true →
    alikeMembers as cs = alikeMembers bs cs
  | [], bs, cs, same => by
      cases bs with
      | nil => rfl
      | cons => cases same
  | (name, a) :: as, bs, cs, same => by
      cases bs with
      | nil => cases same
      | cons entry bs =>
          obtain ⟨other, b⟩ := entry
          obtain ⟨first, rest⟩ := Bool.and_eq_true_iff.mp same
          obtain ⟨names, values⟩ := Bool.and_eq_true_iff.mp first
          obtain rfl : name = other := by simpa using names
          cases cs with
          | nil => rfl
          | cons entry cs =>
              rw [alikeMembers, alikeMembers, alike_congr a b entry.2 values,
                alike_members_congr as bs cs rest]
end

theorem alike_symm (a b : Json) (same : a.alike b = true) : b.alike a = true := by
  rw [← alike_congr a b a same]
  exact a.alike_self

theorem alike_trans (a b c : Json) (left : a.alike b = true) (right : b.alike c = true) :
    a.alike c = true := by
  rw [alike_congr a b c left]
  exact right

end Json

namespace Value

inductive Twin : Value → Value → Prop where
  | null : Twin .null .null
  | bool (b : Bool) : Twin (.bool b) (.bool b)
  | text (s : String) : Twin (.text s) (.text s)
  | integer (a b : Value) (n : Int) (left : a.asInt? = some n) (right : b.asInt? = some n) : Twin a b
  | float (x y : Float) (alike : FloatAlike x y) : Twin (.float x) (.float y)
  | structured (m n : Node) (alike : m.tree.alike n.tree = true) : Twin (.structured m) (.structured n)

theorem twin_refl (value : Value) : Twin value value := by
  cases value with
  | null => exact .null
  | bool b => exact .bool b
  | int32 n => exact .integer _ _ n.toInt rfl rfl
  | int64 n => exact .integer _ _ n.toInt rfl rfl
  | float x => exact .float x x (alike_refl x)
  | text s => exact .text s
  | structured node => exact .structured node node node.tree.alike_self

theorem twin_symm (a b : Value) (twin : Twin a b) : Twin b a := by
  cases twin with
  | structured m n alike => exact .structured n m (m.tree.alike_symm n.tree alike)
  | null => exact .null
  | bool b => exact .bool b
  | text s => exact .text s
  | integer a b n left right => exact .integer b a n right left
  | float x y alike => exact .float y x (alike_symm x y alike)

theorem as_int_of_int64 (n : Int64) : (ofInt64 n).asInt? = some n.toInt := by
  unfold ofInt64
  by_cases narrow : fitsInt32 n.toInt = true
  · rw [if_pos narrow]
    simp only [fitsInt32, Bool.and_eq_true, decide_eq_true_eq] at narrow
    rw [asInt?, Int32.toInt_ofInt_of_le (by omega) (by omega)]
  · rw [if_neg narrow, asInt?]

theorem of_int64_normal (n : Int64) : (ofInt64 n).normalized = ofInt64 n := by
  unfold ofInt64
  by_cases narrow : fitsInt32 n.toInt = true
  · rw [if_pos narrow]
    rfl
  · rw [if_neg narrow]
    exact if_neg narrow

theorem of_number_int (n : Int) (inRange : -0x8000000000000000 ≤ n ∧ n < 0x10000000000000000) :
    ofNumber (.int n inRange) =
      if fitsInt64 n then ofInt64 (Int64.ofInt n) else .float (Float.ofInt n) := rfl

theorem of_number_normal (n : Number) : (ofNumber n).normalized = ofNumber n := by
  cases n with
  | float x finite => rfl
  | int n inRange =>
      rw [of_number_int]
      by_cases fits : fitsInt64 n = true
      · rw [if_pos fits, of_int64_normal]
      · rw [if_neg fits]
        rfl

theorem of_node_normal (node : Node) : (ofNode node).normalized = ofNode node := by
  obtain ⟨tree, canonical⟩ := node
  cases tree with
  | number n => exact of_number_normal n
  | _ => rfl

theorem normalized_normalized (value : Value) : value.normalized.normalized = value.normalized := by
  cases value with
  | int64 n => exact of_int64_normal n
  | structured node => exact of_node_normal node
  | _ => rfl

theorem as_int_normalized (value : Value) (n : Int) (integer : value.asInt? = some n) :
    value.normalized.asInt? = some n := by
  cases value with
  | int64 m => rw [normalized, as_int_of_int64]; exact integer
  | int32 m => exact integer
  | _ => cases integer

theorem number_twin (a b : Number) (same : a.alike b = true) : Twin (ofNumber a) (ofNumber b) := by
  cases a with
  | int m inRange =>
      cases b with
      | int n inRangeToo =>
          obtain rfl : m = n := by simpa [Number.alike] using same
          exact twin_refl _
      | float y finite => cases same
  | float x finite =>
      cases b with
      | int n inRange => cases same
      | float y finiteToo => exact .float x y (.inl same)

theorem number_value_beq (n : Number) : alikePlain (ofNumber n) (ofNumber n) = true := by
  cases n with
  | float x finite => exact finite_beq_self x finite
  | int n inRange =>
      rw [of_number_int]
      by_cases fits : fitsInt64 n = true
      · rw [if_pos fits]
        unfold ofInt64
        split <;> simp [alikePlain, asInt?]
      · rw [if_neg fits]
        have wide : 0x8000000000000000 ≤ n := by
          simp only [fitsInt64, Bool.and_eq_true, decide_eq_true_eq] at fits
          omega
        exact number_beq_self _ (of_int_is_number n wide)

theorem node_twin (m n : Node) (same : m.tree.alike n.tree = true) : Twin (ofNode m) (ofNode n) := by
  obtain ⟨left, leftCanonical⟩ := m
  obtain ⟨right, rightCanonical⟩ := n
  cases left with
  | null => cases right <;> first | exact .null | cases same
  | bool a =>
      cases right with
      | bool b =>
          obtain rfl : a = b := by simpa [Json.alike] using same
          exact .bool a
      | _ => cases same
  | number a =>
      cases right with
      | number b => exact number_twin a b same
      | _ => cases same
  | text a =>
      cases right with
      | text b =>
          obtain rfl : a = b := by simpa [Json.alike] using same
          exact .text a
      | _ => cases same
  | list a =>
      cases right with
      | list b => exact .structured _ _ same
      | _ => cases same
  | object a =>
      cases right with
      | object b => exact .structured _ _ same
      | _ => cases same

def isPlain : Value → Bool
  | .structured _ => false
  | _ => true

theorem of_number_plain (n : Number) : (ofNumber n).isPlain = true := by
  cases n with
  | float x finite => rfl
  | int n inRange =>
      rw [of_number_int]
      unfold ofInt64
      split
      · split <;> rfl
      · rfl

theorem of_scalar_plain (node : Node) (scalar : node.isScalar = true) :
    (ofNode node).isPlain = true := by
  obtain ⟨tree, canonical⟩ := node
  cases tree with
  | number n => exact of_number_plain n
  | list => cases scalar
  | object => cases scalar
  | _ => rfl

theorem integers_twin (a b : Value)
    (same : (match a.asInt?, b.asInt? with
      | some m, some n => decide (m = n)
      | _, _ => false) = true) : Twin a b := by
  cases left : a.asInt? with
  | none => simp [left] at same
  | some m =>
      cases right : b.asInt? with
      | none => simp [left, right] at same
      | some n =>
          obtain rfl : m = n := by simpa [left, right] using same
          exact .integer a b m left right

theorem plain_twin (a b : Value) (left : a.isPlain = true) (right : b.isPlain = true)
    (same : alikePlain a b = true) : Twin a b := by
  unfold alikePlain at same
  split at same
  · exact .null
  · rename_i p q
    obtain rfl : p = q := by simpa using same
    exact .bool p
  · exact .float _ _ (.inl same)
  · rename_i s t
    obtain rfl : s = t := by simpa using same
    exact .text s
  · exact integers_twin a b same

theorem twin_normalized (a b : Value) (twin : Twin a b) : Twin a.normalized b.normalized := by
  cases twin with
  | null => exact .null
  | bool b => exact .bool b
  | text s => exact .text s
  | integer a b n left right =>
      exact .integer _ _ n (as_int_normalized a n left) (as_int_normalized b n right)
  | float x y alike => exact .float x y alike
  | structured m n alike => exact node_twin m n alike

theorem scalar_twin (node : Node) (value : Value) (plain : value.isPlain = true)
    (same : (node.isScalar && alikePlain (ofNode node) value) = true) :
    Twin (ofNode node) value.normalized ∧ Twin value.normalized (ofNode node) := by
  obtain ⟨scalar, alike⟩ := Bool.and_eq_true_iff.mp same
  have nodePlain := of_scalar_plain node scalar
  have twin := twin_normalized _ _ (plain_twin (ofNode node) value nodePlain plain alike)
  rw [of_node_normal] at twin
  exact ⟨twin, twin_symm _ _ twin⟩

theorem alike_cases (a b : Value) (same : (a == b) = true) :
    (∃ m n : Node, a = .structured m ∧ b = .structured n ∧ m.tree.alike n.tree = true) ∨
    (∃ node, a = .structured node ∧ b.isPlain = true ∧
      (node.isScalar && alikePlain (ofNode node) b) = true) ∨
    (∃ node, b = .structured node ∧ a.isPlain = true ∧
      (node.isScalar && alikePlain (ofNode node) a) = true) ∨
    (a.isPlain = true ∧ b.isPlain = true ∧ alikePlain a b = true) := by
  cases a <;> cases b <;>
    first
    | exact .inl ⟨_, _, rfl, rfl, same⟩
    | exact .inr (.inl ⟨_, rfl, rfl, same⟩)
    | exact .inr (.inr (.inl ⟨_, rfl, rfl, same⟩))
    | exact .inr (.inr (.inr ⟨rfl, rfl, same⟩))

theorem normalized_twin (a b : Value) (same : (a == b) = true) : Twin a.normalized b.normalized := by
  rcases alike_cases a b same with ⟨m, n, rfl, rfl, alike⟩ | ⟨node, rfl, plain, alike⟩ |
    ⟨node, rfl, plain, alike⟩ | ⟨left, right, alike⟩
  · exact node_twin m n alike
  · exact (scalar_twin node b plain alike).1
  · exact (scalar_twin node a plain alike).2
  · exact twin_normalized a b (plain_twin a b left right alike)

theorem plain_of_type_name (node : Node) (value : Value)
    (same : (Value.structured node).typeName = value.typeName) : value.isPlain = false := by
  cases value with
  | structured other => rfl
  | _ => simp [typeName] at same

theorem twin_of_type_name (a b : Value) (same : (a == b) = true) (types : a.typeName = b.typeName) :
    Twin a b := by
  rcases alike_cases a b same with ⟨m, n, rfl, rfl, alike⟩ | ⟨node, rfl, plain, alike⟩ |
    ⟨node, rfl, plain, alike⟩ | ⟨left, right, alike⟩
  · exact .structured m n alike
  · cases plain.symm.trans (plain_of_type_name node b types)
  · cases plain.symm.trans (plain_of_type_name node a types.symm)
  · exact plain_twin a b left right alike

theorem type_name_of_integer (value : Value) (n : Int) (integer : value.asInt? = some n) :
    value.typeName = "number" := by
  cases value <;> first | rfl | cases integer

theorem twin_type_name (a b : Value) (twin : Twin a b) : a.typeName = b.typeName := by
  cases twin with
  | integer a b n left right =>
      rw [type_name_of_integer a n left, type_name_of_integer b n right]
  | _ => rfl

theorem twin_alike (a b : Value) (twin : Twin a b) :
    (a == b) = true ∨ ∃ x y : Float, a = .float x ∧ b = .float y ∧ x.isNaN = true ∧ y.isNaN = true := by
  cases twin with
  | null => exact .inl rfl
  | bool b => exact .inl (by simp [BEq.beq, alike, alikePlain])
  | text s => exact .inl (by simp [BEq.beq, alike, alikePlain])
  | integer a b n left right =>
      refine .inl ?_
      cases a <;> cases left <;> cases b <;> simp_all [BEq.beq, alike, alikePlain, asInt?]
  | float x y near =>
      rcases near with equal | ⟨left, right⟩
      · exact .inl equal
      · exact .inr ⟨x, y, rfl, rfl, left, right⟩
  | structured m n same => exact .inl same

theorem twin_as_int (a b : Value) (twin : Twin a b) : a.asInt? = b.asInt? := by
  cases twin with
  | integer a b n left right => rw [left, right]
  | _ => rfl

theorem as_float_of_integer (value : Value) (n : Int) (integer : value.asInt? = some n) :
    value.asFloat? = some (Float.ofInt n) := by
  cases value <;> cases integer <;> rfl

theorem twin_as_float (a b : Value) (twin : Twin a b) :
    Option.Rel FloatAlike a.asFloat? b.asFloat? := by
  cases twin with
  | integer a b n left right =>
      rw [as_float_of_integer a n left, as_float_of_integer b n right]
      exact .some (alike_refl _)
  | float x y alike => exact .some alike
  | _ => exact .none

theorem twin_combine (exact : Int → Int → Int) (rounded : Float → Float → Float)
    (respects : ∀ x y u v, FloatAlike x y → FloatAlike u v → FloatAlike (rounded x u) (rounded y v))
    (a b c d : Value) (left : Twin a b) (right : Twin c d) :
    Option.Rel Twin (combine? exact rounded a c) (combine? exact rounded b d) := by
  unfold combine?
  rw [twin_as_int a b left, twin_as_int c d right]
  split
  · split
    · exact .some (twin_refl _)
    · exact .some (twin_refl _)
  · have floats := twin_as_float a b left
    have floatsToo := twin_as_float c d right
    generalize a.asFloat? = x, b.asFloat? = y at floats
    generalize c.asFloat? = u, d.asFloat? = v at floatsToo
    cases floats with
    | none => exact .none
    | some near =>
        cases floatsToo with
        | none => exact .none
        | some nearToo => exact .some (.float _ _ (respects _ _ _ _ near nearToo))

theorem twin_add (a b c d : Value) (left : Twin a b) (right : Twin c d) :
    Option.Rel Twin (a.add? c) (b.add? d) :=
  twin_combine _ _ (fun _ _ _ _ => alike_add _ _ _ _) a b c d left right

theorem twin_sub (a b c d : Value) (left : Twin a b) (right : Twin c d) :
    Option.Rel Twin (a.sub? c) (b.sub? d) :=
  twin_combine _ _ (fun _ _ _ _ => alike_sub _ _ _ _) a b c d left right

end Value

end Slideshow
