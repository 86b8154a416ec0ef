import SwiftDerive.Syntax.Substitution

/-! # Names in types

The places of a type at which type names stand, at any depth. A substitution acts on these places
alone: at a bare name it puts the places of the type that stands for it, and all others it keeps.
-/

namespace SwiftDerive

set_option autoImplicit false

structure NamePlace where
  name : String
  /-- Whether a substitution reaches the place. -/
  isBare : Bool
  deriving DecidableEq, Repr

def NamePlace.fixed (place : NamePlace) : NamePlace := { place with isBare := false }

namespace TypeRef

mutual

/-- The places of type names in a type. What comes behind the dot of a member type is no type name
of its own. -/
def namePlaces : TypeRef → List NamePlace
  | .named name [] => [⟨name, true⟩]
  | .named name (t :: ts) => ⟨name, false⟩ :: namePlacesAll (t :: ts)
  | .member base _ arguments => base.namePlaces.map NamePlace.fixed ++ namePlacesAll arguments
  | .optional wrapped _ => wrapped.namePlaces
  | .array element => element.namePlaces
  | .dictionary key value => key.namePlaces ++ value.namePlaces
  | .tuple elements => namePlacesElements elements
  | .function parameters result _ _ thrown =>
    namePlacesElements parameters ++ result.namePlaces ++ namePlacesThrown thrown
  | .attributed _ base => base.namePlaces
  | .composition types => namePlacesAll types
  | .metatype base _ => base.namePlaces

def namePlacesAll : List TypeRef → List NamePlace
  | [] => []
  | t :: ts => t.namePlaces ++ namePlacesAll ts

def namePlacesElements : List (TupleElement TypeRef) → List NamePlace
  | [] => []
  | ⟨type, _, _, _⟩ :: es => type.namePlaces ++ namePlacesElements es

def namePlacesThrown : Option TypeRef → List NamePlace
  | none => []
  | some t => t.namePlaces.map NamePlace.fixed

end

def typeNames (t : TypeRef) : List String := t.namePlaces.map NamePlace.name

theorem namePlacesAll_eq_flatMap (ts : List TypeRef) :
    namePlacesAll ts = ts.flatMap namePlaces := by
  induction ts with
  | nil => rfl
  | cons t ts ih => rw [namePlacesAll, ih, List.flatMap_cons]

theorem namePlacesElements_eq_flatMap (es : List (TupleElement TypeRef)) :
    namePlacesElements es = es.flatMap fun e => e.type.namePlaces := by
  induction es with
  | nil => rfl
  | cons e es ih => rw [namePlacesElements, ih, List.flatMap_cons]

end TypeRef

/-! ## Substitution -/

def NamePlace.replaced (σ : Substitution) (place : NamePlace) : List NamePlace :=
  match place.isBare, σ place.name with
  | true, some t => t.namePlaces
  | _, _ => [place]

namespace NamePlace

@[simp] theorem replaced_fixed (σ : Substitution) (place : NamePlace) :
    place.fixed.replaced σ = [place.fixed] := rfl

theorem flatMap_replaced_fixed (σ : Substitution) (places : List NamePlace) :
    (places.map fixed).flatMap (replaced σ) = places.map fixed := by
  induction places with
  | nil => rfl
  | cons place places ih =>
    rw [List.map_cons, List.flatMap_cons, ih, replaced_fixed, List.singleton_append]

theorem mem_replaced_iff (σ : Substitution) (place other : NamePlace) :
    other ∈ place.replaced σ ↔
      (other = place ∧ (place.isBare = true → σ place.name = none)) ∨
      ∃ t, place.isBare = true ∧ σ place.name = some t ∧ other ∈ t.namePlaces := by
  obtain ⟨name, isBare⟩ := place
  cases isBare with
  | false => simp [replaced]
  | true => cases hName : σ name <;> simp [replaced, hName]

end NamePlace

namespace TypeRef

mutual

/-- A substitution acts on a type place by place. -/
theorem namePlaces_substitute (σ : Substitution) : (t : TypeRef) →
    (t.substitute σ).namePlaces = t.namePlaces.flatMap (NamePlace.replaced σ)
  | .named name [] => by
    cases hName : σ name <;> simp [substitute, namePlaces, NamePlace.replaced, hName]
  | .named name (t :: ts) => by
    have ih := namePlacesAll_substitute σ (t :: ts)
    rw [substituteAll] at ih
    rw [substitute, substituteAll, namePlaces, namePlaces, ih, List.flatMap_cons]
    rfl
  | .member base name arguments => by
    -- The base is not entered, and its places are fixed on both sides.
    rw [substitute, namePlaces, namePlaces, namePlacesAll_substitute σ arguments,
      List.flatMap_append, NamePlace.flatMap_replaced_fixed]
  | .optional wrapped _ | .array wrapped | .attributed _ wrapped | .metatype wrapped _ => by
    rw [substitute, namePlaces, namePlaces, namePlaces_substitute σ wrapped]
  | .dictionary key value => by
    rw [substitute, namePlaces, namePlaces, namePlaces_substitute σ key,
      namePlaces_substitute σ value, List.flatMap_append]
  | .tuple elements => by
    rw [substitute, namePlaces, namePlaces, namePlacesElements_substitute σ elements]
  | .function parameters result _ _ thrown => by
    have hThrown : (namePlacesThrown thrown).flatMap (NamePlace.replaced σ) =
        namePlacesThrown thrown := by
      cases thrown with
      | none => rfl
      | some t => exact NamePlace.flatMap_replaced_fixed σ t.namePlaces
    rw [substitute, namePlaces, namePlaces, namePlacesElements_substitute σ parameters,
      namePlaces_substitute σ result, List.flatMap_append, List.flatMap_append, hThrown]
  | .composition types => by
    rw [substitute, namePlaces, namePlaces, namePlacesAll_substitute σ types]

theorem namePlacesAll_substitute (σ : Substitution) : (ts : List TypeRef) →
    namePlacesAll (substituteAll σ ts) = (namePlacesAll ts).flatMap (NamePlace.replaced σ)
  | [] => rfl
  | t :: ts => by
    rw [substituteAll, namePlacesAll, namePlacesAll, namePlaces_substitute σ t,
      namePlacesAll_substitute σ ts, List.flatMap_append]

theorem namePlacesElements_substitute (σ : Substitution) :
    (es : List (TupleElement TypeRef)) → namePlacesElements (substituteElements σ es) =
      (namePlacesElements es).flatMap (NamePlace.replaced σ)
  | [] => rfl
  | ⟨type, _, _, _⟩ :: es => by
    rw [substituteElements, namePlacesElements, namePlacesElements, namePlaces_substitute σ type,
      namePlacesElements_substitute σ es, List.flatMap_append]

end

theorem mem_typeNames_substitute_iff (σ : Substitution) (t : TypeRef) (name : String) :
    name ∈ (t.substitute σ).typeNames ↔ ∃ place ∈ t.namePlaces,
      (place.name = name ∧ (place.isBare = true → σ place.name = none)) ∨
      ∃ u, place.isBare = true ∧ σ place.name = some u ∧ name ∈ u.typeNames := by
  simp only [typeNames, namePlaces_substitute, List.mem_map, List.mem_flatMap,
    NamePlace.mem_replaced_iff]
  constructor
  · rintro ⟨other, ⟨place, hPlace, ⟨rfl, hKept⟩ | ⟨u, hBare, hReplaced, hOther⟩⟩, rfl⟩
    · exact ⟨other, hPlace, .inl ⟨rfl, hKept⟩⟩
    · exact ⟨place, hPlace, .inr ⟨u, hBare, hReplaced, other, hOther, rfl⟩⟩
  · rintro ⟨place, hPlace, ⟨rfl, hKept⟩ | ⟨u, hBare, hReplaced, other, hOther, rfl⟩⟩
    · exact ⟨place, ⟨place, hPlace, .inl ⟨rfl, hKept⟩⟩, rfl⟩
    · exact ⟨other, ⟨place, hPlace, .inr ⟨u, hBare, hReplaced, hOther⟩⟩, rfl⟩

/-! ## Types that mention no replaced name -/

section Mentions

variable {σ : Substitution} {names : List String}

mutual

theorem substitute_eq_self (hOutside : ∀ name, name ∉ names → σ name = none) : (t : TypeRef) →
    t.mentions names = false → t.substitute σ = t
  | .named name [], h => by
    have hName : name ∉ names := by simpa [mentions, mentionsAny] using h
    simp [substitute, hOutside name hName]
  | .named name (t :: ts), h => by
    have hParts := (Bool.or_eq_false_iff.mp h).2
    rw [substitute, substituteAll_eq_self hOutside (t :: ts) hParts]
  | .member base name arguments, h => by
    have hParts := (Bool.or_eq_false_iff.mp h).2
    rw [substitute, substituteAll_eq_self hOutside arguments hParts]
  | .optional wrapped _, h | .array wrapped, h | .attributed _ wrapped, h
  | .metatype wrapped _, h => by
    rw [substitute, substitute_eq_self hOutside wrapped h]
  | .dictionary key value, h => by
    obtain ⟨hKey, hValue⟩ := Bool.or_eq_false_iff.mp h
    rw [substitute, substitute_eq_self hOutside key hKey, substitute_eq_self hOutside value hValue]
  | .tuple elements, h => by
    rw [substitute, substituteElements_eq_self hOutside elements h]
  | .function parameters result _ _ thrown, h => by
    obtain ⟨hResult, hParameters⟩ := Bool.or_eq_false_iff.mp h
    rw [substitute, substituteElements_eq_self hOutside parameters hParameters,
      substitute_eq_self hOutside result hResult]
  | .composition types, h => by
    rw [substitute, substituteAll_eq_self hOutside types h]

theorem substituteAll_eq_self (hOutside : ∀ name, name ∉ names → σ name = none) :
    (ts : List TypeRef) → mentionsAny names ts = false → substituteAll σ ts = ts
  | [], _ => rfl
  | t :: ts, h => by
    obtain ⟨hHead, hTail⟩ := Bool.or_eq_false_iff.mp h
    rw [substituteAll, substitute_eq_self hOutside t hHead, substituteAll_eq_self hOutside ts hTail]

theorem substituteElements_eq_self (hOutside : ∀ name, name ∉ names → σ name = none) :
    (es : List (TupleElement TypeRef)) → mentionsElements names es = false →
      substituteElements σ es = es
  | [], _ => rfl
  | ⟨type, _, _, _⟩ :: es, h => by
    obtain ⟨hHead, hTail⟩ := Bool.or_eq_false_iff.mp h
    rw [substituteElements, substitute_eq_self hOutside type hHead,
      substituteElements_eq_self hOutside es hTail]

end

end Mentions

end TypeRef

end SwiftDerive
