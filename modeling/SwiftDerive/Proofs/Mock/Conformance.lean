import SwiftDerive.Proofs.Mock.Dependency
import SwiftDerive.Proofs.Requirement

/-! # The mock implements the protocol

The protocol has one requirement for each slot, and the mock one member that forwards to the slot.
Both are made from the signature of the slot, by separate rules; analyzed again they have the same
signature, but for the names inside the member.
-/

namespace SwiftDerive.Mock

set_option autoImplicit false

structure SameFunction (s t : FunctionSignature) : Prop where
  name : s.name = t.name
  parameters : (s.parameters.map fun p => (p.label, p.type, p.variadic)) =
    t.parameters.map fun p => (p.label, p.type, p.variadic)
  isAsync : s.isAsync = t.isAsync
  isThrowing : s.isThrowing = t.isThrowing
  thrown : s.thrown = t.thrown
  result : s.result = t.result
  genericParameters : s.genericParameters = t.genericParameters
  whereClause : s.whereClause = t.whereClause
  attributes : s.attributes = t.attributes

structure SameProperty (s t : PropertySignature) : Prop where
  name : s.name = t.name
  type : s.type = t.type
  getOnly : s.getOnly = t.getOnly
  isAsync : s.isAsync = t.isAsync
  isThrowing : s.isThrowing = t.isThrowing

inductive SameSignature : Signature → Signature → Prop
  | function {s t : FunctionSignature} (h : SameFunction s t) :
      SameSignature (.function s) (.function t)
  | property {s t : PropertySignature} (h : SameProperty s t) :
      SameSignature (.property s) (.property t)

/-- The member has the signature of the requirement, and its modifiers behind the visibility. -/
def Implements (isPublic : Bool) (member requirement : Decl) : Prop :=
  ∃ s t, Signature.ofDecl member = .ok (some s) ∧ Signature.ofDecl requirement = .ok (some t) ∧
    SameSignature s t ∧
    s.modifiers = (if isPublic then [⟨"public", none⟩] else []) ++ t.modifiers

/-! ## Modifiers -/

theorem restrictsSetter_member (dep : Dependency) (s : Signature) :
    ∀ m ∈ dep.memberModifiers s, Signature.restrictsSetter m = false := by
  intro m hMem
  rcases List.mem_append.mp hMem with hPublic | hKept
  · cases hVisible : dep.isPublic with
    | false => simp [hVisible] at hPublic
    | true =>
      obtain rfl : m = ⟨"public", none⟩ := by simpa [hVisible] using hPublic
      exact Requirement.restrictsSetter_of_detail_none "public"
  · exact Requirement.restrictsSetter_requirement _ _ m hKept

/-! ## Members -/

theorem sameFunction_members (dep : Dependency) (slot : Slot) (s : FunctionSignature) :
    SameFunction (Signature.ofFunction (dep.forwardingFunction slot s))
      (Signature.ofFunction (Requirement.ofFunction dep.kind.excludedModifiers s)) where
  name := rfl
  parameters := by
    simp only [Signature.ofFunction, Dependency.forwardingFunction, Requirement.ofFunction,
      List.map_map]
    exact map_mapIndexed (f := forwardedParameter) (fun _ _ => rfl) s.parameters
  isAsync := rfl
  isThrowing := rfl
  thrown := rfl
  result := rfl
  genericParameters := rfl
  whereClause := rfl
  attributes := rfl

theorem ofVariable_forwarding (dep : Dependency) (slot : Slot) {s : PropertySignature}
    (hName : isIdentifier s.name = true) :
    Signature.ofVariable (dep.forwardingProperty slot s) =
      .ok ⟨s.name, s.type, s.getOnly, s.isAsync, (Requirement.throwsKeyword s.isThrowing).isSome,
        [], dep.memberModifiers (.property s)⟩ :=
  Signature.ofVariable_computed hName s.type s.getOnly _ _ _ _ _
    (restrictsSetter_member dep (.property s))

theorem implements_of_slot (dep : Dependency) (slot : Slot)
    (hName : ∀ s, slot.signature = .property s → isIdentifier s.name = true) :
    Implements dep.isPublic (dep.forwardingMember slot)
      (Requirement.ofSignature dep.kind.excludedModifiers slot.signature) := by
  obtain ⟨slotName, signature⟩ := slot
  cases signature with
  | function s => exact ⟨_, _, rfl, rfl, .function (sameFunction_members dep ⟨slotName, _⟩ s), rfl⟩
  | property s =>
    -- A property is analyzed again only if its name is an identifier.
    have hIdentifier := hName s rfl
    refine ⟨_, _, congrArg (Except.map _) (ofVariable_forwarding dep ⟨slotName, _⟩ hIdentifier),
      congrArg (Except.map _)
        (Requirement.ofVariable_requirement hIdentifier dep.kind.excludedModifiers),
      .property ⟨rfl, rfl, rfl, rfl, rfl⟩, rfl⟩

end SwiftDerive.Mock
