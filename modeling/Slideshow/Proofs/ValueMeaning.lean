import Slideshow.Proofs.NormalValues

set_option autoImplicit false

namespace Slideshow

-- Numbers that differ and are one float as values. One of them is an integer beyond 64 bits with
-- sign.
inductive Number.Clash : Number → Number → Prop where
  | integers (m n : Int) (left : -0x8000000000000000 ≤ m ∧ m < 0x10000000000000000)
      (right : -0x8000000000000000 ≤ n ∧ n < 0x10000000000000000) (wide : 0x8000000000000000 ≤ m)
      (wideToo : 0x8000000000000000 ≤ n) (differ : m ≠ n)
      (same : (Float.ofInt m == Float.ofInt n) = true) : Clash (.int m left) (.int n right)
  | integer_float (m : Int) (left : -0x8000000000000000 ≤ m ∧ m < 0x10000000000000000) (y : Float)
      (finite : y.isFinite = true) (wide : 0x8000000000000000 ≤ m)
      (same : (Float.ofInt m == y) = true) : Clash (.int m left) (.float y finite)
  | float_integer (x : Float) (finite : x.isFinite = true) (n : Int)
      (right : -0x8000000000000000 ≤ n ∧ n < 0x10000000000000000) (wide : 0x8000000000000000 ≤ n)
      (same : (x == Float.ofInt n) = true) : Clash (.float x finite) (.int n right)

theorem clash_symm (x y : Number) (clash : x.Clash y) : y.Clash x := by
  cases clash with
  | integers m n left right wide wideToo differ same =>
      exact .integers n m right left wideToo wide differ.symm (beq_symm _ _ same)
  | integer_float m left y finite wide same =>
      exact .float_integer y finite m left wide (beq_symm _ _ same)
  | float_integer x finite n right wide same =>
      exact .integer_float n right x finite wide (beq_symm _ _ same)

namespace Value

def Clash (a b : Value) : Prop :=
  ∃ (m n : Node) (x y : Number), a = .structured m ∧ b = .structured n ∧
    m.tree = .number x ∧ n.tree = .number y ∧ x.Clash y

theorem alike_plain_integer (a b : Value) (m : Int) (integer : a.asInt? = some m) :
    alikePlain a b = true ↔ b.asInt? = some m := by
  cases a <;> cases integer <;> cases b <;> simp [alikePlain, asInt?, eq_comm]

theorem alike_plain_symm (a b : Value) (same : alikePlain a b = true) : alikePlain b a = true := by
  unfold alikePlain at same
  split at same
  · rfl
  · simpa [alikePlain, eq_comm] using same
  · exact beq_symm _ _ same
  · simpa [alikePlain, eq_comm] using same
  · cases left : a.asInt? with
    | none => simp [left] at same
    | some m =>
        cases right : b.asInt? with
        | none => simp [left, right] at same
        | some n =>
            obtain rfl : m = n := by simpa [left, right] using same
            exact (alike_plain_integer b a m right).mpr left

theorem alike_plain_comm (a b : Value) : alikePlain a b = alikePlain b a :=
  Bool.eq_iff_iff.mpr ⟨alike_plain_symm a b, alike_plain_symm b a⟩

theorem of_int64_plain (n : Int64) : (ofInt64 n).isPlain = true := by
  unfold ofInt64
  split <;> rfl

theorem plain_normalized (a : Value) (plain : a.isPlain = true) : a.normalized.isPlain = true := by
  cases a with
  | structured => cases plain
  | int64 n => exact of_int64_plain n
  | _ => rfl

theorem alike_plain_normalized (a b : Value) (plain : a.isPlain = true) :
    alikePlain a.normalized b = alikePlain a b := by
  cases a with
  | structured => cases plain
  | int64 n =>
      rw [Bool.eq_iff_iff, alike_plain_integer (.int64 n) b n.toInt rfl]
      exact alike_plain_integer (ofInt64 n) b n.toInt (as_int_of_int64 n)
  | _ => rfl

theorem beq_of_plain (a b : Value) (left : a.isPlain = true) (right : b.isPlain = true) :
    (a == b) = alikePlain a b := by
  cases b with
  | structured => cases right
  | _ => cases a <;> first | rfl | cases left

theorem beq_node_plain (node : Node) (b : Value) (plain : b.isPlain = true) :
    (Value.structured node == b) = (node.isScalar && alikePlain (ofNode node) b) := by
  cases b <;> first | rfl | cases plain

theorem beq_comm (a b : Value) : (a == b) = (b == a) := by
  cases leftPlain : a.isPlain <;> cases rightPlain : b.isPlain
  · cases a <;> cases leftPlain
    cases b <;> cases rightPlain
    exact Bool.eq_iff_iff.mpr ⟨Json.alike_symm _ _, Json.alike_symm _ _⟩
  · cases a <;> cases leftPlain
    cases b <;> first | rfl | cases rightPlain
  · cases b <;> cases rightPlain
    cases a <;> first | rfl | cases leftPlain
  · rw [beq_of_plain a b leftPlain rightPlain, beq_of_plain b a rightPlain leftPlain, alike_plain_comm]

theorem plain_beq_normalized (a b : Value) (left : a.isPlain = true) (right : b.isPlain = true) :
    (a.normalized == b.normalized) = (a == b) := by
  rw [beq_of_plain a b left right,
    beq_of_plain _ _ (plain_normalized a left) (plain_normalized b right),
    alike_plain_normalized a _ left, alike_plain_comm, alike_plain_normalized b a right, alike_plain_comm]

theorem of_composite (node : Node) (composite : node.isScalar = false) :
    ofNode node = .structured node := by
  obtain ⟨tree, canonical⟩ := node
  cases tree <;> first | rfl | cases composite

theorem node_beq_normalized (node : Node) (b : Value) (plain : b.isPlain = true) :
    ((Value.structured node).normalized == b.normalized) = (Value.structured node == b) := by
  have normal : (Value.structured node).normalized = ofNode node := rfl
  rw [normal, beq_node_plain node b plain]
  cases scalar : node.isScalar with
  | true =>
      have nodePlain := of_scalar_plain node scalar
      rw [← of_node_normal node, plain_beq_normalized _ b nodePlain plain, of_node_normal node,
        beq_of_plain _ b nodePlain plain]
      rfl
  | false =>
      rw [of_composite node scalar, beq_node_plain node _ (plain_normalized b plain), scalar]
      rfl

theorem of_integer_cases (n : Int) (inRange : -0x8000000000000000 ≤ n ∧ n < 0x10000000000000000) :
    (n < 0x8000000000000000 ∧ (ofNumber (.int n inRange)).asInt? = some n) ∨
      (0x8000000000000000 ≤ n ∧ ofNumber (.int n inRange) = .float (Float.ofInt n)) := by
  rw [of_number_int]
  by_cases narrow : n < 0x8000000000000000
  · refine .inl ⟨narrow, ?_⟩
    have fits : fitsInt64 n = true := by
      simp only [fitsInt64, Bool.and_eq_true, decide_eq_true_eq]
      omega
    rw [if_pos fits, as_int_of_int64, Int64.toInt_ofInt_of_le inRange.1 narrow]
  · refine .inr ⟨by omega, if_neg ?_⟩
    simp only [fitsInt64, Bool.and_eq_true, decide_eq_true_eq]
    omega

theorem integers_beq_iff (m n : Int) (left : -0x8000000000000000 ≤ m ∧ m < 0x10000000000000000)
    (right : -0x8000000000000000 ≤ n ∧ n < 0x10000000000000000) (differ : m ≠ n) :
    alikePlain (ofNumber (.int m left)) (ofNumber (.int n right)) = true ↔
      Number.Clash (.int m left) (.int n right) := by
  rcases of_integer_cases m left with ⟨narrow, integer⟩ | ⟨wide, float⟩
  · rw [alike_plain_integer _ _ m integer]
    rcases of_integer_cases n right with ⟨_, other⟩ | ⟨_, other⟩
    · rw [other]
      refine iff_of_false (fun same => differ (Option.some.inj same).symm) ?_
      rintro ⟨⟩
      omega
    · rw [other]
      refine iff_of_false nofun ?_
      rintro ⟨⟩
      omega
  · rcases of_integer_cases n right with ⟨narrow, integer⟩ | ⟨wideToo, floatToo⟩
    · rw [alike_plain_comm, alike_plain_integer _ _ n integer, float]
      refine iff_of_false nofun ?_
      rintro ⟨⟩
      omega
    · rw [float, floatToo]
      refine ⟨.integers m n left right wide wideToo differ, ?_⟩
      rintro ⟨⟩
      assumption

theorem integer_beq_float_iff (m : Int) (left : -0x8000000000000000 ≤ m ∧ m < 0x10000000000000000)
    (y : Float) (finite : y.isFinite = true) :
    alikePlain (ofNumber (.int m left)) (.float y) = true ↔
      Number.Clash (.int m left) (.float y finite) := by
  rcases of_integer_cases m left with ⟨narrow, integer⟩ | ⟨wide, float⟩
  · rw [alike_plain_integer _ _ m integer]
    refine iff_of_false nofun ?_
    rintro ⟨⟩
    omega
  · rw [float]
    refine ⟨.integer_float m left y finite wide, ?_⟩
    rintro ⟨⟩
    assumption

theorem number_beq_iff (x y : Number) :
    x.alike y = true ↔ alikePlain (ofNumber x) (ofNumber y) = true ∧ ¬ x.Clash y := by
  cases x with
  | int m left =>
      cases y with
      | int n right =>
          by_cases differ : m = n
          · subst differ
            refine iff_of_true (decide_eq_true rfl) ⟨number_value_beq _, ?_⟩
            rintro ⟨⟩
            contradiction
          · rw [integers_beq_iff m n left right differ]
            exact iff_of_false (fun same => differ (of_decide_eq_true same)) fun ⟨clash, apart⟩ => apart clash
      | float y finite =>
          exact iff_of_false nofun fun ⟨same, apart⟩ => apart ((integer_beq_float_iff m left y finite).mp same)
  | float x finite =>
      cases y with
      | int n right =>
          refine iff_of_false nofun fun ⟨same, apart⟩ => apart ?_
          exact clash_symm _ _ ((integer_beq_float_iff n right x finite).mp (alike_plain_symm _ _ same))
      | float y finiteToo => exact (and_iff_left nofun).symm

theorem of_number_is_number (n : Number) : (ofNumber n).isNumber = true := by
  cases n with
  | float x finite => rfl
  | int n inRange =>
      rw [of_number_int]
      unfold ofInt64
      split
      · split <;> rfl
      · rfl

theorem number_beq_other (x : Number) (n : Node) (other : ∀ y, n.tree ≠ .number y) :
    (ofNumber x == ofNode n) = false := by
  have number := of_number_is_number x
  generalize ofNumber x = v at number
  obtain ⟨tree, canonical⟩ := n
  cases tree with
  | number y => exact absurd rfl (other y)
  | _ => cases v <;> first | rfl | cases number

theorem number_alike_other (x : Number) (tree : Json) (other : ∀ y, tree ≠ .number y) :
    (Json.number x).alike tree = false := by
  cases tree with
  | number y => exact absurd rfl (other y)
  | _ => rfl

theorem number_beq_node (x : Number) (canonical : (Json.number x).Canonical) (n : Node)
    (other : ∀ y, n.tree ≠ .number y) :
    (ofNode ⟨.number x, canonical⟩ == ofNode n) =
      (Value.structured ⟨.number x, canonical⟩ == Value.structured n) :=
  (number_beq_other x n other).trans (number_alike_other x n.tree other).symm

theorem nodes_beq_normalized (m n : Node) (other : ∀ x y, m.tree = .number x → n.tree ≠ .number y) :
    (ofNode m == ofNode n) = (Value.structured m == Value.structured n) := by
  obtain ⟨left, leftCanonical⟩ := m
  obtain ⟨right, rightCanonical⟩ := n
  cases right with
  | number y =>
      rw [beq_comm (ofNode _), beq_comm (Value.structured _)]
      exact number_beq_node y _ _ fun x number => other x y number rfl
  | _ => cases left with
    | number x => exact number_beq_node x _ _ fun y => other x y rfl
    | _ => rfl

theorem nodes_beq_iff (m n : Node) :
    (Value.structured m == Value.structured n) = true ↔
      (ofNode m == ofNode n) = true ∧ ¬ Clash (.structured m) (.structured n) := by
  by_cases numbers : ∃ x y, m.tree = .number x ∧ n.tree = .number y
  · obtain ⟨x, y, left, right⟩ := numbers
    obtain ⟨_, leftCanonical⟩ := m
    obtain ⟨_, rightCanonical⟩ := n
    cases left
    cases right
    have clash : Clash (.structured ⟨.number x, leftCanonical⟩) (.structured ⟨.number y, rightCanonical⟩) ↔
        x.Clash y := by
      constructor
      · rintro ⟨_, _, _, _, ⟨⟩, ⟨⟩, ⟨⟩, ⟨⟩, clash⟩
        exact clash
      · exact fun clash => ⟨_, _, x, y, rfl, rfl, rfl, rfl, clash⟩
    have plain : (ofNumber x == ofNumber y) = alikePlain (ofNumber x) (ofNumber y) :=
      beq_of_plain _ _ (of_number_plain x) (of_number_plain y)
    rw [clash, show (ofNode ⟨.number x, leftCanonical⟩ == ofNode ⟨.number y, rightCanonical⟩) = _ from plain]
    exact number_beq_iff x y
  · rw [nodes_beq_normalized m n fun x y left right => numbers ⟨x, y, left, right⟩]
    refine (and_iff_left ?_).symm
    rintro ⟨_, _, x, y, ⟨⟩, ⟨⟩, left, right, _⟩
    exact numbers ⟨x, y, left, right⟩

theorem clash_turned (a b : Value) (clash : Clash a b) : Clash b a := by
  obtain ⟨m, n, x, y, rfl, rfl, left, right, clash⟩ := clash
  exact ⟨n, m, y, x, rfl, rfl, right, left, clash_symm x y clash⟩

theorem plain_never_clashes (a b : Value) (plain : a.isPlain = true) : ¬ Clash a b := by
  rintro ⟨m, n, x, y, rfl, _⟩
  cases plain

theorem plain_beq_iff (a b : Value) (plain : a.isPlain = true) :
    (a == b) = true ↔ (a.normalized == b.normalized) = true ∧ ¬ Clash a b := by
  rw [and_iff_left (plain_never_clashes a b plain)]
  cases right : b.isPlain with
  | true => rw [plain_beq_normalized a b plain right]
  | false =>
      cases b <;> cases right
      rw [beq_comm a.normalized, node_beq_normalized _ a plain, beq_comm a]

theorem beq_iff_normalized (a b : Value) :
    (a == b) = true ↔ (a.normalized == b.normalized) = true ∧ ¬ Clash a b := by
  cases left : a.isPlain with
  | true => exact plain_beq_iff a b left
  | false =>
      cases right : b.isPlain with
      | true =>
          rw [beq_comm a, beq_comm a.normalized, plain_beq_iff b a right]
          exact and_congr_right fun _ => not_congr ⟨clash_turned b a, clash_turned a b⟩
      | false =>
          cases a <;> cases left
          cases b <;> cases right
          exact nodes_beq_iff _ _

/-- Values are equal if their normal forms are, and equality is symmetric and transitive, but for the
nodes of two numbers that differ and are one float as values: those are never equal. -/
theorem beq_by_meaning (a b c : Value) :
    (a == b) = (b == a) ∧
    ((a == b) = true → (b == c) = true → ((a == c) = true ↔ ¬ Clash a c)) ∧
    ((a == b) = true ↔ (a.normalized == b.normalized) = true ∧ ¬ Clash a b) := by
  refine ⟨beq_comm a b, fun left right => ?_, beq_iff_normalized a b⟩
  have normal : ∀ v : Value, v.normalized.Normal := normalized_normalized
  have same := beq_trans_of_normal (normal a) (normal b) (normal c)
    ((beq_iff_normalized a b).mp left).1 ((beq_iff_normalized b c).mp right).1
  rw [beq_iff_normalized a c, same]
  exact and_iff_right rfl

def powerNode : Value :=
  .structured ⟨.number (.int 0x8000000000000000 (by decide)), trivial⟩

def powerFloat : Value :=
  .float (Float.ofBits 0x43E0000000000000)

def powerFloatNode : Value :=
  .structured ⟨.number (.float (Float.ofBits 0x43E0000000000000) (by decide)), trivial⟩

theorem power_nodes_differ :
    (powerNode == powerFloat) = true ∧ (powerFloat == powerFloatNode) = true ∧
    (powerNode == powerFloatNode) = false ∧
    (powerNode.normalized == powerFloatNode.normalized) = true := by
  decide +kernel

theorem power_nodes_clash :
    (powerNode == powerFloat) = true ∧ (powerFloat == powerFloatNode) = true ∧
    Clash powerNode powerFloatNode := by
  have left : (powerNode == powerFloat) = true := by decide +kernel
  have right : (powerFloat == powerFloatNode) = true := by decide +kernel
  have differ : ¬ (powerNode == powerFloatNode) = true := by decide +kernel
  have meaning := (beq_by_meaning powerNode powerFloat powerFloatNode).2.1 left right
  exact ⟨left, right, by_contra fun apart => differ (meaning.mpr apart)⟩

end Value

end Slideshow
