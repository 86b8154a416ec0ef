import SwiftDerive.Decimal.Binary64
import SwiftDerive.Entries

/-! # Values of the data format

Null, booleans, integers of any size, floating-point numbers, texts, arrays and objects. An object
keeps its entries in the order in which their keys first came.
-/

namespace SwiftDerive

set_option autoImplicit false

inductive Json where
  | null
  | bool (value : Bool)
  | int (value : Int)
  | float (value : Binary64)
  | string (text : String)
  | array (items : List Json)
  | object (entries : List (String × Json))

namespace Json

instance : Inhabited Json := ⟨.null⟩

mutual

def same : Json → Json → Bool
  | .null, .null => true
  | .bool a, .bool b => a == b
  | .int a, .int b => a == b
  | .float a, .float b => a == b
  | .string a, .string b => a == b
  | .array as, .array bs => sameAll as bs
  | .object as, .object bs => sameEntries as bs
  | _, _ => false

def sameAll : List Json → List Json → Bool
  | [], [] => true
  | a :: as, b :: bs => a.same b && sameAll as bs
  | _, _ => false

def sameEntries : List (String × Json) → List (String × Json) → Bool
  | [], [] => true
  | (k, a) :: as, (l, b) :: bs => k == l && a.same b && sameEntries as bs
  | _, _ => false

end

mutual

theorem same_iff_eq : (a b : Json) → (a.same b = true ↔ a = b)
  | .null, b => by cases b <;> simp [same]
  | .bool _, b => by cases b <;> simp [same]
  | .int _, b => by cases b <;> simp [same]
  | .float _, b => by cases b <;> simp [same]
  | .string _, b => by cases b <;> simp [same]
  | .array as, b => by cases b <;> simp [same, sameAll_iff_eq as]
  | .object as, b => by cases b <;> simp [same, sameEntries_iff_eq as]

theorem sameAll_iff_eq : (as bs : List Json) → (sameAll as bs = true ↔ as = bs)
  | [], bs => by cases bs <;> simp [sameAll]
  | a :: as, bs => by cases bs <;> simp [sameAll, same_iff_eq a, sameAll_iff_eq as]

theorem sameEntries_iff_eq :
    (as bs : List (String × Json)) → (sameEntries as bs = true ↔ as = bs)
  | [], bs => by cases bs <;> simp [sameEntries]
  | (k, a) :: as, [] => by simp [sameEntries]
  | (k, a) :: as, (l, b) :: bs => by
    simp [sameEntries, same_iff_eq a, sameEntries_iff_eq as]

end

instance : DecidableEq Json := fun a b =>
  decidable_of_iff (a.same b = true) (same_iff_eq a b)

end Json

end SwiftDerive
