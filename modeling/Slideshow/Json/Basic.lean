import Slideshow.IdMap

set_option autoImplicit false

namespace Slideshow

-- Integers of 64 bits, signed or not, and finite floats; the two are never equal.
inductive Number where
  | int (value : Int) (inRange : -0x8000000000000000 ≤ value ∧ value < 0x10000000000000000)
  | float (value : Float) (finite : value.isFinite = true)
deriving DecidableEq

namespace Number

def alike : Number → Number → Bool
  | .int a _, .int b _ => a = b
  | .float a _, .float b _ => a == b
  | _, _ => false

def toFloat : Number → Float
  | .int n _ => Float.ofInt n
  | .float x _ => x

def ofInt64 (n : Int64) : Number :=
  .int n.toInt ⟨n.le_toInt, by have := n.toInt_lt; omega⟩

end Number

inductive Json where
  | null
  | bool (value : Bool)
  | number (value : Number)
  | text (value : String)
  | list (elements : List Json)
  | object (members : List (String × Json))

namespace Json

mutual
def alike : Json → Json → Bool
  | .null, .null => true
  | .bool a, .bool b => a = b
  | .number a, .number b => a.alike b
  | .text a, .text b => a = b
  | .list a, .list b => alikeLists a b
  | .object a, .object b => alikeMembers a b
  | _, _ => false

def alikeLists : List Json → List Json → Bool
  | [], [] => true
  | a :: as, b :: bs => alike a b && alikeLists as bs
  | _, _ => false

def alikeMembers : List (String × Json) → List (String × Json) → Bool
  | [], [] => true
  | (name, a) :: as, (other, b) :: bs => name = other && alike a b && alikeMembers as bs
  | _, _ => false
end

def isScalar : Json → Bool
  | .list _ | .object _ => false
  | _ => true

def ofFloat (x : Float) : Json :=
  if finite : x.isFinite = true then .number (.float x finite) else .null

def ofInt64 (n : Int64) : Json :=
  .number (.ofInt64 n)

def ofNat (n : Nat) : Json :=
  if fits : n < 0x10000000000000000 then .number (.int n ⟨by omega, by omega⟩)
  else .ofFloat (Float.ofNat n)

mutual
def Canonical : Json → Prop
  | .list elements => CanonicalList elements
  | .object members => Ascending members ∧ CanonicalMembers members
  | _ => True

def CanonicalList : List Json → Prop
  | [] => True
  | element :: rest => Canonical element ∧ CanonicalList rest

def CanonicalMembers : List (String × Json) → Prop
  | [] => True
  | (_, value) :: rest => Canonical value ∧ CanonicalMembers rest
end

mutual
-- Sorts the members of every object; of members with one name the last one counts.
def canonical : Json → Json
  | .list elements => .list (canonicalList elements)
  | .object members => .object (IdMap.ofList (canonicalMembers members)).entries
  | json => json

def canonicalList : List Json → List Json
  | [] => []
  | element :: rest => canonical element :: canonicalList rest

def canonicalMembers : List (String × Json) → List (String × Json)
  | [] => []
  | (name, value) :: rest => (name, canonical value) :: canonicalMembers rest
end

theorem canonical_members_of_forall (members : List (String × Json))
    (each : ∀ member ∈ members, Canonical member.2) : CanonicalMembers members := by
  induction members with
  | nil => trivial
  | cons member rest ih =>
      exact ⟨each member List.mem_cons_self,
        ih fun m inRest => each m (List.mem_cons_of_mem _ inRest)⟩

theorem forall_of_canonical_members (members : List (String × Json))
    (canonical : CanonicalMembers members) : ∀ member ∈ members, Canonical member.2 := by
  induction members with
  | nil => simp
  | cons member rest ih =>
      intro m inList
      rcases List.mem_cons.mp inList with same | inRest
      · exact same ▸ canonical.1
      · exact ih canonical.2 m inRest

mutual
theorem canonical_canonical : (json : Json) → Canonical (canonical json)
  | .null | .bool _ | .number _ | .text _ => trivial
  | .list elements => canonical_list_canonical_list elements
  | .object members =>
      ⟨(IdMap.ofList (canonicalMembers members)).ascending,
        canonical_members_of_forall _ fun member inMap =>
          forall_of_canonical_members _ (canonical_members_canonical_members members) member
            (IdMap.mem_of_list inMap)⟩

theorem canonical_list_canonical_list :
    (elements : List Json) → CanonicalList (canonicalList elements)
  | [] => trivial
  | element :: rest => ⟨canonical_canonical element, canonical_list_canonical_list rest⟩

theorem canonical_members_canonical_members :
    (members : List (String × Json)) → CanonicalMembers (canonicalMembers members)
  | [] => trivial
  | (_, value) :: rest => ⟨canonical_canonical value, canonical_members_canonical_members rest⟩
end

end Json

-- A JSON value without regard to the order of members.
structure Node where
  tree : Json
  canonical : tree.Canonical

namespace Node

def ofJson (json : Json) : Node :=
  ⟨json.canonical, json.canonical_canonical⟩

def isScalar (node : Node) : Bool := node.tree.isScalar

instance : BEq Node := ⟨fun a b => a.tree.alike b.tree⟩

end Node

end Slideshow
