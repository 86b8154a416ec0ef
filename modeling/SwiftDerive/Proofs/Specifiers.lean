import SwiftDerive.Proofs.TypeNames

/-! # Specifiers in types

The words such as `some` or `inout` that stand in front of a type or of a part of it. A substitution
keeps them, and at a bare name adds those of the type that stands for it.
-/

namespace SwiftDerive

set_option autoImplicit false

namespace TypeRef

mutual

def specifiers : TypeRef → List String
  | .named _ arguments => specifiersAll arguments
  | .member base _ arguments => base.specifiers ++ specifiersAll arguments
  | .optional wrapped _ => wrapped.specifiers
  | .array element => element.specifiers
  | .dictionary key value => key.specifiers ++ value.specifiers
  | .tuple elements => specifiersElements elements
  | .function parameters result _ _ thrown =>
    specifiersElements parameters ++ result.specifiers ++ specifiersThrown thrown
  | .attributed words base => words ++ base.specifiers
  | .composition types => specifiersAll types
  | .metatype base _ => base.specifiers

def specifiersAll : List TypeRef → List String
  | [] => []
  | t :: ts => t.specifiers ++ specifiersAll ts

def specifiersElements : List (TupleElement TypeRef) → List String
  | [] => []
  | ⟨type, _, _, _⟩ :: es => type.specifiers ++ specifiersElements es

def specifiersThrown : Option TypeRef → List String
  | none => []
  | some t => t.specifiers

end

def innerSpecifiers : TypeRef → List String
  | .attributed _ base => base.specifiers
  | t => t.specifiers

theorem mem_specifiers_iff (word : String) (t : TypeRef) :
    word ∈ t.specifiers ↔ t.hasSpecifier word = true ∨ word ∈ t.innerSpecifiers := by
  cases t <;> simp [specifiers, innerSpecifiers, hasSpecifier]

theorem specifiersAll_eq_flatMap (ts : List TypeRef) :
    specifiersAll ts = ts.flatMap specifiers := by
  induction ts with
  | nil => rfl
  | cons t ts ih => rw [specifiersAll, ih, List.flatMap_cons]

theorem specifiersElements_eq_flatMap (es : List (TupleElement TypeRef)) :
    specifiersElements es = es.flatMap fun e => e.type.specifiers := by
  induction es with
  | nil => rfl
  | cons e es ih => rw [specifiersElements, ih, List.flatMap_cons]

end TypeRef

/-! ## Substitution -/

def NamePlace.brought (σ : Substitution) (place : NamePlace) : List String :=
  match place.isBare, σ place.name with
  | true, some t => t.specifiers
  | _, _ => []

namespace NamePlace

theorem flatMap_brought_fixed (σ : Substitution) (places : List NamePlace) :
    (places.map fixed).flatMap (brought σ) = [] := by
  rw [List.flatMap_map, List.flatMap_eq_nil_iff]
  exact fun _ _ => rfl

theorem notMem_brought {σ : Substitution} {word : String}
    (h : ∀ name t, σ name = some t → word ∉ t.specifiers) (places : List NamePlace) :
    word ∉ places.flatMap (brought σ) := by
  intro hMem
  obtain ⟨⟨name, isBare⟩, _, hBrought⟩ := List.mem_flatMap.mp hMem
  cases isBare with
  | false => cases hBrought
  | true =>
    cases hName : σ name with
    | none => simp [brought, hName] at hBrought
    | some t => exact h name t hName (by simpa [brought, hName] using hBrought)

end NamePlace

namespace TypeRef

mutual

theorem mem_specifiers_substitute_iff (σ : Substitution) (word : String) : (t : TypeRef) →
    (word ∈ (t.substitute σ).specifiers ↔
      word ∈ t.specifiers ∨ word ∈ t.namePlaces.flatMap (NamePlace.brought σ))
  | .named name [] => by
    cases hName : σ name <;>
      simp [substitute, specifiers, specifiersAll, namePlaces, NamePlace.brought, hName]
  | .named name (t :: ts) => by
    have ih := mem_specifiersAll_substitute_iff σ word (t :: ts)
    rw [substituteAll] at ih
    rw [substitute, substituteAll, specifiers, ih, specifiers, namePlaces, List.flatMap_cons]
    rfl
  | .member base name arguments => by
    rw [substitute, specifiers, specifiers, namePlaces, List.flatMap_append,
      NamePlace.flatMap_brought_fixed, List.nil_append, List.mem_append, List.mem_append,
      mem_specifiersAll_substitute_iff σ word arguments, or_assoc]
  | .optional wrapped _ | .array wrapped | .metatype wrapped _ => by
    rw [substitute, specifiers, specifiers, namePlaces,
      mem_specifiers_substitute_iff σ word wrapped]
  | .attributed words base => by
    rw [substitute, specifiers, specifiers, namePlaces, List.mem_append, List.mem_append,
      mem_specifiers_substitute_iff σ word base, or_assoc]
  | .dictionary key value => by
    rw [substitute, specifiers, specifiers, namePlaces, List.flatMap_append, List.mem_append,
      List.mem_append, List.mem_append, mem_specifiers_substitute_iff σ word key,
      mem_specifiers_substitute_iff σ word value, or_or_or_comm]
  | .tuple elements => by
    rw [substitute, specifiers, specifiers, namePlaces,
      mem_specifiersElements_substitute_iff σ word elements]
  | .function parameters result _ _ thrown => by
    -- A thrown type is not substituted, so that nothing is brought to its places.
    have hThrown : (namePlacesThrown thrown).flatMap (NamePlace.brought σ) = [] := by
      cases thrown with
      | none => rfl
      | some t => exact NamePlace.flatMap_brought_fixed σ t.namePlaces
    rw [substitute, specifiers, specifiers, namePlaces, List.flatMap_append, List.flatMap_append,
      hThrown, List.append_nil]
    simp only [List.mem_append]
    rw [mem_specifiersElements_substitute_iff σ word parameters,
      mem_specifiers_substitute_iff σ word result, or_or_or_comm, or_right_comm]
  | .composition types => by
    rw [substitute, specifiers, specifiers, namePlaces,
      mem_specifiersAll_substitute_iff σ word types]

theorem mem_specifiersAll_substitute_iff (σ : Substitution) (word : String) :
    (ts : List TypeRef) → (word ∈ specifiersAll (substituteAll σ ts) ↔
      word ∈ specifiersAll ts ∨ word ∈ (namePlacesAll ts).flatMap (NamePlace.brought σ))
  | [] => by simp [substituteAll, specifiersAll, namePlacesAll]
  | t :: ts => by
    rw [substituteAll, specifiersAll, specifiersAll, namePlacesAll, List.flatMap_append,
      List.mem_append, List.mem_append, List.mem_append, mem_specifiers_substitute_iff σ word t,
      mem_specifiersAll_substitute_iff σ word ts, or_or_or_comm]

theorem mem_specifiersElements_substitute_iff (σ : Substitution) (word : String) :
    (es : List (TupleElement TypeRef)) → (word ∈ specifiersElements (substituteElements σ es) ↔
      word ∈ specifiersElements es ∨
        word ∈ (namePlacesElements es).flatMap (NamePlace.brought σ))
  | [] => by simp [substituteElements, specifiersElements, namePlacesElements]
  | ⟨type, _, _, _⟩ :: es => by
    rw [substituteElements, specifiersElements, specifiersElements, namePlacesElements,
      List.flatMap_append, List.mem_append, List.mem_append, List.mem_append,
      mem_specifiers_substitute_iff σ word type, mem_specifiersElements_substitute_iff σ word es,
      or_or_or_comm]

end

section Plain

variable {σ : Substitution} {word : String} (h : ∀ name t, σ name = some t → word ∉ t.specifiers)

include h

/-- A specifier that no replacement has stays where it is. -/
theorem mem_specifiers_substitute_of_plain (t : TypeRef) :
    word ∈ (t.substitute σ).specifiers ↔ word ∈ t.specifiers := by
  rw [mem_specifiers_substitute_iff, or_iff_left (NamePlace.notMem_brought h _)]

theorem mem_innerSpecifiers_substitute_of_plain (t : TypeRef) :
    word ∈ (t.substitute σ).innerSpecifiers ↔ word ∈ t.innerSpecifiers := by
  match t with
  | .attributed _ base => exact mem_specifiers_substitute_of_plain h base
  | .named name [] =>
    cases hName : σ name with
    | none => rw [substitute, hName, Option.getD_none]
    | some u =>
      -- The name has no specifiers inside, nor has what stands for it.
      rw [substitute, hName, Option.getD_some]
      constructor
      · intro hMem
        exact absurd ((mem_specifiers_iff word u).mpr (.inr hMem)) (h name u hName)
      · intro hMem
        cases hMem
  | .named _ (_ :: _) | .member .. | .optional .. | .array _ | .dictionary .. | .tuple _
  | .function .. | .composition _ | .metatype .. => exact mem_specifiers_substitute_of_plain h _

end Plain

end TypeRef

end SwiftDerive
