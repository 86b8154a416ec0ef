import SwiftDerive.Proofs.Except
import SwiftDerive.Signature
import SwiftDerive.Syntax.Construct
import SwiftDerive.Visibility

/-! # Signatures of properties

A property has a signature when it binds one identifier with a type. The signature of a property
with a getter and at most a setter is read off its parts.
-/

namespace SwiftDerive.Signature

set_option autoImplicit false

theorem ofVariable_eq_ok_iff (d : VariableDecl) (s : PropertySignature) :
    ofVariable d = .ok s ↔ ∃ b type, d.bindings = [b] ∧ isIdentifier b.pattern = true ∧
      b.type = some type ∧
      s = ⟨b.pattern, type, isGetOnly d b, (getterEffects b.accessorBlock).isAsync,
        (getterEffects b.accessorBlock).isThrowing, d.attributes, d.modifiers⟩ := by
  unfold ofVariable
  match hBindings : d.bindings with
  | [] => simp
  | [b] =>
    simp only [List.cons.injEq, and_true, exists_and_left, exists_eq_left']
    by_cases hName : isIdentifier b.pattern = true
    · rw [if_pos hName]
      cases hType : b.type with
      | none => simp
      | some type =>
        constructor
        · intro h
          exact ⟨hName, type, rfl, (Except.ok.inj h).symm⟩
        · rintro ⟨_, _, hSame, rfl⟩
          cases hSame
          rfl
    · rw [if_neg hName]
      constructor
      · intro h
        cases h
      · rintro ⟨hSome, _⟩
        exact absurd hSome hName
  | _ :: _ :: _ => simp

theorem ofDecl_eq_property_iff (d : Decl) (s : PropertySignature) :
    ofDecl d = .ok (some (.property s)) ↔ ∃ v, d = .variable v ∧ ofVariable v = .ok s := by
  constructor
  · intro h
    match d with
    | .variable v =>
      rw [ofDecl, map_eq_ok_iff] at h
      obtain ⟨s', hSignature, hSame⟩ := h
      cases hSame
      exact ⟨v, rfl, hSignature⟩
    | .function _ | .initializer _ | .enumCase _ | .type _ _ | .raw _ _ | .statement _ | .file _ =>
      cases h
  · rintro ⟨v, rfl, hSignature⟩
    rw [ofDecl, hSignature]
    rfl

def attributes : Signature → List Attribute
  | .function s => s.attributes
  | .property s => s.attributes

theorem attributes_of_ofDecl {d : Decl} {s : Signature} (h : ofDecl d = .ok (some s)) :
    d.isCallable = true ∧ s.attributes = d.attributes := by
  match d with
  | .function f =>
    cases h
    exact ⟨rfl, rfl⟩
  | .variable v =>
    rw [ofDecl, map_eq_ok_iff] at h
    obtain ⟨property, hProperty, hSame⟩ := h
    obtain ⟨_, _, _, _, _, rfl⟩ := (ofVariable_eq_ok_iff v property).mp hProperty
    cases hSame
    exact ⟨rfl, rfl⟩
  | .initializer _ | .enumCase _ | .type _ _ | .raw _ _ | .statement _ | .file _ => cases h

theorem isIdentifier_of_property {d : Decl} {s : PropertySignature}
    (h : ofDecl d = .ok (some (.property s))) : isIdentifier s.name = true := by
  obtain ⟨v, _, hSignature⟩ := (ofDecl_eq_property_iff d s).mp h
  obtain ⟨b, _, _, hName, _, rfl⟩ := (ofVariable_eq_ok_iff v s).mp hSignature
  exact hName

theorem ofDecl_eq_function_iff (d : Decl) (s : FunctionSignature) :
    ofDecl d = .ok (some (.function s)) ↔ ∃ f, d = .function f ∧ s = ofFunction f := by
  constructor
  · intro h
    match d with
    | .function f =>
      cases h
      exact ⟨f, rfl, rfl⟩
    | .variable v =>
      rw [ofDecl, map_eq_ok_iff] at h
      obtain ⟨_, _, hSame⟩ := h
      cases hSame
    | .initializer _ | .enumCase _ | .type _ _ | .raw _ _ | .statement _ | .file _ =>
      cases h
  · rintro ⟨f, rfl, rfl⟩
    rfl

theorem ofVariable_computed {name : String} (hName : isIdentifier name = true) (type : TypeRef)
    (getOnly : Bool) (getter setter : Option Statement) (effects setterEffects : Effects)
    (attributes : List Attribute) {modifiers : List Modifier}
    (hModifiers : ∀ m ∈ modifiers, restrictsSetter m = false) :
    ofVariable (Construct.computedVariable name type
        (if getOnly then [Construct.accessor "get" getter effects]
          else [Construct.accessor "get" getter effects,
            Construct.accessor "set" setter setterEffects])
        attributes modifiers) =
      .ok ⟨name, type, getOnly, effects.isAsync, effects.isThrowing, attributes, modifiers⟩ := by
  have hFree : modifiers.any restrictsSetter = false := by
    rw [List.any_eq_false]
    intro m hMem
    rw [hModifiers m hMem]
    exact Bool.false_ne_true
  refine (ofVariable_eq_ok_iff _ _).mpr ⟨_, type, rfl, hName, rfl, ?_⟩
  cases getOnly with
  | true =>
    simp [Construct.computedVariable, Construct.singleBinding, isGetOnly, hFree, lacksSetter,
      getterEffects, Construct.accessor]
  | false =>
    simp [Construct.computedVariable, Construct.singleBinding, isGetOnly, hFree, lacksSetter,
      getterEffects, Construct.accessor]

end SwiftDerive.Signature
