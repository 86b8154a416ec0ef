import SwiftDerive.Signature
import SwiftDerive.Syntax.Substitution
import SwiftDerive.Text.Names

/-! # Slots of a mock

A mock backs every member by a closure that it stores in a slot. The slots of a mock have names of
their own, and the type of a slot is that of a closure outside the generic clause of its member, so
that generic parameters are erased to types that can be stored.
-/

namespace SwiftDerive.Mock

set_option autoImplicit false

/-- A member and the name of its slot, which is also the label in the initializer of the mock. -/
structure Slot where
  name : String
  signature : Signature

def Slot.property (slot : Slot) : String :=
  "_" ++ Text.plainName slot.name

/-- The name that a slot gets unless it is taken. Overloaded functions have their capitalised
argument labels behind the name. -/
def baseName (overloaded : Bool) : Signature → String
  | .property s => s.name
  | .function s =>
    if overloaded then
      s.name ++ String.join ((s.parameters.filterMap (·.label)).map Text.capitalized)
    else s.name

def candidate (base : String) : Nat → String
  | 0 => base
  | k + 1 => base ++ toString (k + 2)

/-- The first name to try that is not taken, backticks aside. Of one name more than are taken, one
is free. -/
def freeName (taken : List String) (base : String) : String :=
  candidate base
    (((List.range (taken.length + 1)).find? fun k =>
      !taken.contains (Text.plainName (candidate base k))).getD 0)

def slotsFrom (overloaded : String → Bool) (taken : List String) : List Signature → List Slot
  | [] => []
  | s :: ss =>
    -- Only slots take names, not the members that the mock declares beside them.
    let name := freeName taken (baseName (overloaded s.name) s)
    ⟨name, s⟩ :: slotsFrom overloaded (Text.plainName name :: taken) ss

def assignSlots (signatures : List Signature) : List Slot :=
  slotsFrom (fun name => (signatures.map Signature.name).count name > 1) [] signatures

/-- The constraints on a generic parameter: those of the generic clause, then those of the `where`
clause. -/
def boundsOf (s : FunctionSignature) (name : String) : List TypeRef :=
  s.genericParameters.filterMap (fun p => if p.name == name then p.constraint else none) ++
    ((s.whereClause.map WhereClause.requirements).getD []).filterMap fun r =>
      match r.left with
      | .named left _ => if left == name && r.relation == ":" then some r.right else none
      | _ => none

/-- The type that the `where` clause equates a generic parameter with; the last one counts. -/
def equatedType? (s : FunctionSignature) (name : String) : Option TypeRef :=
  (((s.whereClause.map WhereClause.requirements).getD []).filterMap fun r =>
    match r.left with
    | .named left _ => if left == name && r.relation != ":" then some r.right else none
    | _ => none).getLast?

/-- The type that stands for a generic parameter in a slot: the one it is equated with, else an
existential of its constraints. -/
def erasureOf (s : FunctionSignature) (name : String) : TypeRef :=
  match equatedType? s name, boundsOf s name with
  | some type, _ => type
  | none, [] => .named "Any" []
  | none, [bound] => .attributed ["any"] bound
  | none, bounds => .attributed ["any"] (.composition bounds)

def erasures (s : FunctionSignature) : List (String × TypeRef) :=
  (s.genericParameters.map GenericParameter.name).eraseDups.map fun name =>
    (name, erasureOf s name)

/-- The type of the closure of a function, variadic parameters being arrays. -/
def closureType (σ : Substitution) (s : FunctionSignature) : TypeRef :=
  .function
    (s.parameters.map fun p =>
      let type := p.type.substitute σ
      ⟨if p.variadic then .array type else type, none, none, false⟩)
    -- The thrown type is the declared one: nothing is replaced in it.
    ((s.result.getD TypeRef.void).substitute σ) s.isAsync s.isThrowing s.thrown

def opened : TypeRef → TypeRef
  | .attributed specifiers base =>
    .attributed (specifiers.map fun s => if s == "some" then "any" else s) base
  | t => t

def openedParameters : TypeRef → TypeRef
  | .function parameters result isAsync isThrowing thrown =>
    .function (parameters.map fun p => ⟨opened p.type, none, none, false⟩) result isAsync
      isThrowing thrown
  | t => t

def slotType : Signature → TypeRef
  | .property s => s.getterType
  | .function s => openedParameters (closureType (Substitution.ofList (erasures s)) s)

end SwiftDerive.Mock
