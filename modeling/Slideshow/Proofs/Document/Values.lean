import Slideshow.Proofs.Json.Reread
import Slideshow.Proofs.ValueAlike

set_option autoImplicit false

namespace Slideshow.Value

open Json

def floats : Value → List Float
  | .float x => [x]
  | .structured node => node.tree.floats
  | _ => []

theorem integer_alike (a b : Value) (n : Int) (left : a.asInt? = some n) (right : b.asInt? = some n) :
    (a == b) = true := by
  rcases twin_alike a b (.integer a b n left right) with same | ⟨x, y, rfl, _⟩
  · exact same
  · cases left

theorem of_number_of_int64 (n : Int64) : ofNumber (.ofInt64 n) = ofInt64 n := by
  have least := n.le_toInt
  have most := n.toInt_lt
  have fits : fitsInt64 n.toInt = true := by
    simp only [fitsInt64, Bool.and_eq_true, decide_eq_true_eq]
    omega
  rw [Number.ofInt64, of_number_int, if_pos fits, Int64.ofInt_toInt]

theorem integer_returns (n : Int64) (v : Value) (integer : v.asInt? = some n.toInt) (levels : Nat) :
    ∃ read, (Json.ofInt64 n).outline.json levels = .ok read ∧ (Value.ofJson read == v) = true := by
  refine ⟨_, by rw [Json.ofInt64, outline, Outline.json, Number.ofInt64, Number.reread_int]; rfl, ?_⟩
  apply integer_alike _ v n.toInt _ integer
  have same : Value.ofJson (.number (.ofInt64 n)) = ofInt64 n := of_number_of_int64 n
  rw [← as_int_of_int64 n, ← same]
  rfl

theorem float_value_returns_iff (x : Float) (levels : Nat) :
    (∃ read, (Json.ofFloat x).outline.json levels = .ok read ∧ (Value.ofJson read == .float x) = true) ↔
      ReadsBack x := by
  by_cases finite : x.isFinite = true
  · rw [of_float_finite x finite]
    simp only [outline, Outline.json, map_returns_iff]
    exact float_returns_iff x finite _ fun _ _ => Iff.rfl
  · rw [of_float_not_finite x finite]
    constructor
    · rintro ⟨read, known, same⟩
      cases known
      cases same
    · intro back
      exact absurd (reads_back_finite x back) finite

theorem of_json_canonical (json : Json) (sorted : json.Canonical) : ofJson json = ofNode ⟨json, sorted⟩ := by
  have same : Node.ofJson json = ⟨json, sorted⟩ := by
    unfold Node.ofJson
    congr 1
    exact canonical_of_canonical json sorted
  rw [ofJson, same]

theorem scalar_beq_iff (value : Value) (node : Node) (plain : value.isPlain = true)
    (scalar : node.isScalar = true) :
    (value == .structured node) = alikePlain (ofNode node) value := by
  cases value with
  | structured other => cases plain
  | _ => exact congrArg (· && _) scalar

theorem number_node_returns_iff (n : Number) (levels : Nat) (node : Node) (number : node.tree = .number n) :
    (∃ read, node.tree.outline.json levels = .ok read ∧ (Value.ofJson read == .structured node) = true) ↔
      node.tree.depth ≤ levels ∧ ∀ x ∈ node.tree.floats, ReadsBack x := by
  obtain ⟨tree, canonical⟩ := node
  subst number
  have equal : ∀ m : Number, (Value.ofJson (.number m) == .structured ⟨.number n, canonical⟩) =
      alikePlain (ofNumber n) (ofNumber m) := fun m => scalar_beq_iff _ _ (of_number_plain m) rfl
  have shallow : (Json.number n).depth ≤ levels := Nat.zero_le levels
  simp only [outline, Outline.json, map_returns_iff, equal, shallow, true_and]
  cases n with
  | int n inRange =>
      simp only [Json.floats, List.not_mem_nil, false_implies, implies_true, iff_true]
      exact ⟨_, Number.reread_int n inRange, number_value_beq (.int n inRange)⟩
  | float x finite =>
      simp only [Json.floats, List.mem_singleton, forall_eq]
      exact float_returns_iff x finite _ fun y _ => ⟨beq_symm x y, beq_symm y x⟩

theorem flat_returns_iff (v : Value) (json read : Json) (levels : Nat) (inside : List Float)
    (known : json.outline.json levels = .ok read) (same : (Value.ofJson read == v) = true)
    (flat : json.depth = 0) (whole : inside = []) :
    (∃ read, json.outline.json levels = .ok read ∧ (Value.ofJson read == v) = true) ↔
      json.depth ≤ levels ∧ ∀ x ∈ inside, ReadsBack x := by
  subst whole
  exact iff_of_true ⟨read, known, same⟩ ⟨flat ▸ Nat.zero_le levels, fun _ member => nomatch member⟩

theorem node_returns_iff (node : Node) (levels : Nat) :
    (∃ read, node.tree.outline.json levels = .ok read ∧ (Value.ofJson read == .structured node) = true) ↔
      node.tree.depth ≤ levels ∧ ∀ x ∈ node.tree.floats, ReadsBack x := by
  have sorted : ∀ read, node.tree.outline.json levels = .ok read → read.Canonical := fun read known =>
    read_canonical node.tree levels read known node.canonical
  obtain ⟨tree, canonical⟩ := node
  cases tree with
  | null => exact flat_returns_iff _ .null .null levels _ rfl rfl rfl rfl
  | bool b => exact flat_returns_iff _ (.bool b) (.bool b) levels _ rfl (decide_eq_true rfl) rfl rfl
  | text s => exact flat_returns_iff _ (.text s) (.text s) levels _ rfl (decide_eq_true rfl) rfl rfl
  | number n => exact number_node_returns_iff n levels _ rfl
  -- Lists and objects stay nodes, and nodes are equal if their trees are.
  | list elements =>
      rw [← tree_returns_iff]
      refine exists_congr fun read => and_congr_right fun known => ?_
      rw [of_json_canonical read (sorted read known)]
      obtain ⟨inner, _, inside⟩ := (opened_ok_iff _ _ _).mp known
      obtain ⟨list, _, same⟩ := (bind_ok_iff _ _ _).mp inside
      cases same
      rfl
  | object members =>
      rw [← tree_returns_iff]
      refine exists_congr fun read => and_congr_right fun known => ?_
      rw [of_json_canonical read (sorted read known)]
      obtain ⟨inner, _, inside⟩ := (opened_ok_iff _ _ _).mp known
      obtain ⟨list, _, same⟩ := (bind_ok_iff _ _ _).mp inside
      cases same
      rfl

theorem depth_of_float (x : Float) : (Json.ofFloat x).depth = 0 := by
  unfold Json.ofFloat
  split <;> rfl

theorem value_returns_iff (v : Value) (levels : Nat) :
    (∃ read, v.toJson.outline.json levels = .ok read ∧ (Value.ofJson read == v) = true) ↔
      v.toJson.depth ≤ levels ∧ ∀ x ∈ v.floats, ReadsBack x := by
  cases v with
  | structured node => exact node_returns_iff node levels
  | null => exact flat_returns_iff _ .null .null levels _ rfl rfl rfl rfl
  | bool b => exact flat_returns_iff _ (.bool b) (.bool b) levels _ rfl (decide_eq_true rfl) rfl rfl
  | text s => exact flat_returns_iff _ (.text s) (.text s) levels _ rfl (decide_eq_true rfl) rfl rfl
  | int32 n =>
      obtain ⟨read, known, same⟩ := integer_returns n.toInt64 (.int32 n) (by simp [asInt?]) levels
      exact flat_returns_iff _ _ read levels _ known same rfl rfl
  | int64 n =>
      obtain ⟨read, known, same⟩ := integer_returns n (.int64 n) rfl levels
      exact flat_returns_iff _ _ read levels _ known same rfl rfl
  | float x =>
      have shallow : (Json.ofFloat x).depth ≤ levels := by rw [depth_of_float]; exact Nat.zero_le levels
      simp only [toJson, floats, List.mem_singleton, forall_eq, shallow, true_and]
      exact float_value_returns_iff x levels

end Slideshow.Value
