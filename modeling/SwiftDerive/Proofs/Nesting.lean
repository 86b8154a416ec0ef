import SwiftDerive.Expansion

/-! # Declarations inside declarations

In a source file declarations hold others as the members of types; bodies are text. A declaration at
any depth is reached by the indices of members on the way to it.
-/

namespace SwiftDerive.Decl

set_option autoImplicit false

def members : Decl → List Decl
  | .type _ members => members
  | _ => []

mutual

theorem members_induction {motive : Decl → Prop}
    (step : ∀ d, (∀ m ∈ d.members, motive m) → motive d) : (d : Decl) → motive d
  | .type header members => step (.type header members) (members_induction_all step members)
  | .function _ | .initializer _ | .variable _ | .enumCase _ | .raw _ _ | .statement _
  | .file _ => step _ nofun

theorem members_induction_all {motive : Decl → Prop}
    (step : ∀ d, (∀ m ∈ d.members, motive m) → motive d) : (ds : List Decl) → ∀ d ∈ ds, motive d
  | [], _, hMem => nomatch hMem
  | d :: ds, d', hMem => by
    rcases List.mem_cons.mp hMem with hHead | hTail
    · exact hHead ▸ members_induction step d
    · exact members_induction_all step ds d' hTail

end

/-- A declaration that stands at a path of indices of members, inside the types of the names of the
scope. -/
inductive Holds : Decl → List Nat → List String → Decl → Prop where
  | itself (d : Decl) : Holds d [] [] d
  | member {d m inner : Decl} {i : Nat} {path : List Nat} {scope : List String}
      (hMember : d.members[i]? = some m) (hInner : Holds m path scope inner) :
      Holds d (i :: path) (d.name :: scope) inner

end SwiftDerive.Decl
