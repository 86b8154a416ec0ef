import SwiftDerive.Mock.Dependency
import SwiftDerive.Proofs.Entries
import SwiftDerive.Proofs.FreeNames

/-! # Generic parameters in the types of slots

The type of a slot stands outside the generic clause of its function. It is free of the generic
parameters exactly when the function names them where erasure reaches them alone, and when what
stands for them names none of them again. A thrown type is stored as it is.
-/

namespace SwiftDerive

set_option autoImplicit false

def FunctionSignature.genericNames (s : FunctionSignature) : List String :=
  s.genericParameters.map GenericParameter.name

/-- The types of a function that its slot stores with the generic parameters erased. -/
def FunctionSignature.erasedTypes (s : FunctionSignature) : List TypeRef :=
  s.parameters.map SignatureParameter.type ++ [s.result.getD TypeRef.void]

namespace Mock

def erasing (s : FunctionSignature) : Substitution := Substitution.ofList (erasures s)

theorem erasing_eq (s : FunctionSignature) (name : String) :
    erasing s name = if name ∈ s.genericNames then some (erasureOf s name) else none := by
  rw [erasing, Substitution.ofList, erasures, lookup_graph]
  exact if_congr List.mem_eraseDups rfl rfl

theorem erasing_eq_some_iff (s : FunctionSignature) (name : String) (t : TypeRef) :
    erasing s name = some t ↔ name ∈ s.genericNames ∧ erasureOf s name = t := by
  rw [erasing_eq]
  by_cases h : name ∈ s.genericNames <;> simp [h]

theorem erasing_eq_none_iff (s : FunctionSignature) (name : String) :
    erasing s name = none ↔ name ∉ s.genericNames := by
  rw [erasing_eq]
  by_cases h : name ∈ s.genericNames <;> simp [h]

/-! ## What stands for a generic parameter -/

theorem mem_clauseTypes_of_requirement {parameters : List GenericParameter}
    {whereClause : Option WhereClause} {r : WhereRequirement}
    (hMem : r ∈ (whereClause.map WhereClause.requirements).getD []) :
    r.right ∈ clauseTypes parameters whereClause :=
  List.mem_append_right _ (List.mem_flatMap.mpr ⟨r, hMem, by simp⟩)

theorem mem_clauseTypes_of_equatedType? {s : FunctionSignature} {parameter : String} {t : TypeRef}
    (hEquated : equatedType? s parameter = some t) :
    t ∈ clauseTypes s.genericParameters s.whereClause := by
  obtain ⟨r, hRequirement, hRight⟩ := List.mem_filterMap.mp (List.mem_of_getLast? hEquated)
  split at hRight
  · split at hRight
    · cases hRight
      exact mem_clauseTypes_of_requirement hRequirement
    · cases hRight
  · cases hRight

theorem mem_clauseTypes_of_bound {s : FunctionSignature} {parameter : String} {t : TypeRef}
    (hBound : t ∈ boundsOf s parameter) : t ∈ clauseTypes s.genericParameters s.whereClause := by
  rcases List.mem_append.mp hBound with hInline | hWhere
  · obtain ⟨p, hParameter, hConstraint⟩ := List.mem_filterMap.mp hInline
    split at hConstraint
    · exact List.mem_append_left _ (List.mem_filterMap.mpr ⟨p, hParameter, hConstraint⟩)
    · cases hConstraint
  · obtain ⟨r, hRequirement, hRight⟩ := List.mem_filterMap.mp hWhere
    split at hRight
    · split at hRight
      · cases hRight
        exact mem_clauseTypes_of_requirement hRequirement
      · cases hRight
    · cases hRight

/-! ## The type of a slot -/

def slotParameterType (s : FunctionSignature) (p : SignatureParameter) : TypeRef :=
  opened (if p.variadic then .array (p.type.substitute (erasing s))
    else p.type.substitute (erasing s))

def slotElement (s : FunctionSignature) (p : SignatureParameter) : TupleElement TypeRef :=
  ⟨slotParameterType s p, none, none, false⟩

def slotResult (s : FunctionSignature) : TypeRef :=
  (s.result.getD TypeRef.void).substitute (erasing s)

theorem slotType_function (s : FunctionSignature) :
    slotType (.function s) =
      .function (s.parameters.map (slotElement s)) (slotResult s) s.isAsync s.isThrowing
        s.thrown := by
  rw [slotType, closureType, openedParameters, List.map_map]
  rfl

theorem namePlaces_opened (t : TypeRef) : (opened t).namePlaces = t.namePlaces := by
  cases t <;> rfl

theorem namePlaces_slotElement (s : FunctionSignature) (p : SignatureParameter) :
    (slotElement s p).type.namePlaces = (p.type.substitute (erasing s)).namePlaces := by
  rw [slotElement, slotParameterType, namePlaces_opened]
  cases p.variadic <;> rfl

theorem namePlaces_slotType (s : FunctionSignature) :
    (slotType (.function s)).namePlaces =
      s.erasedTypes.flatMap (fun t => (t.substitute (erasing s)).namePlaces) ++
        TypeRef.namePlacesThrown s.thrown := by
  rw [slotType_function, TypeRef.namePlaces, TypeRef.namePlacesElements_eq_flatMap,
    FunctionSignature.erasedTypes, List.flatMap_append, List.flatMap_singleton, List.flatMap_map,
    List.flatMap_map]
  simp only [namePlaces_slotElement]
  rfl

theorem mem_typeNames_slotType_iff (s : FunctionSignature) (name : String) :
    name ∈ (slotType (.function s)).typeNames ↔
      (∃ t ∈ s.erasedTypes, name ∈ (t.substitute (erasing s)).typeNames) ∨
        ∃ t, s.thrown = some t ∧ name ∈ t.typeNames := by
  have hThrown : (∃ place ∈ TypeRef.namePlacesThrown s.thrown, place.name = name) ↔
      ∃ t, s.thrown = some t ∧ name ∈ t.typeNames := by
    cases s.thrown with
    | none => simp [TypeRef.namePlacesThrown]
    | some t => simp [TypeRef.namePlacesThrown, TypeRef.typeNames, NamePlace.fixed]
  rw [← hThrown]
  simp only [TypeRef.typeNames, namePlaces_slotType, List.mem_map, List.mem_append,
    List.mem_flatMap]
  constructor
  · rintro ⟨place, ⟨t, hType, hPlace⟩ | hPlace, rfl⟩
    · exact .inl ⟨t, hType, place, hPlace, rfl⟩
    · exact .inr ⟨place, hPlace, rfl⟩
  · rintro (⟨t, hType, place, hPlace, rfl⟩ | ⟨place, hPlace, rfl⟩)
    · exact ⟨place, .inl ⟨t, hType, hPlace⟩, rfl⟩
    · exact ⟨place, .inr hPlace, rfl⟩

/-! ## Slots that are free of generic parameters -/

/-- The generic parameters of a function can be erased: the thrown type names none, the parameter
and result types name them at bare places only, and the types that stand for those named there name
none in turn. -/
structure Erasable (s : FunctionSignature) : Prop where
  thrown : ∀ t, s.thrown = some t → ∀ name ∈ t.typeNames, name ∉ s.genericNames
  bare : ∀ t ∈ s.erasedTypes, ∀ place ∈ t.namePlaces, place.name ∈ s.genericNames →
    place.isBare = true
  replaced : ∀ t ∈ s.erasedTypes, ∀ place ∈ t.namePlaces, place.name ∈ s.genericNames →
    ∀ name ∈ (erasureOf s place.name).typeNames, name ∉ s.genericNames

/-- The type of the slot of a function names no generic parameter of the function exactly when the
generic parameters can be erased. -/
theorem slotType_free_iff_erasable (s : FunctionSignature) :
    (∀ name ∈ s.genericNames, name ∉ (slotType (.function s)).typeNames) ↔ Erasable s := by
  simp only [mem_typeNames_slotType_iff, TypeRef.mem_typeNames_substitute_iff,
    erasing_eq_some_iff, erasing_eq_none_iff]
  constructor
  · intro hFree
    have hBare : ∀ t ∈ s.erasedTypes, ∀ place ∈ t.namePlaces, place.name ∈ s.genericNames →
        place.isBare = true := by
      intro t hType place hPlace hGeneric
      by_contra hFixed
      exact hFree place.name hGeneric
        (.inl ⟨t, hType, place, hPlace, .inl ⟨rfl, fun hBare => absurd hBare hFixed⟩⟩)
    refine ⟨?_, hBare, ?_⟩
    · intro t hThrown name hName hGeneric
      exact hFree name hGeneric (.inr ⟨t, hThrown, hName⟩)
    · intro t hType place hPlace hPlaceGeneric name hName hGeneric
      exact hFree name hGeneric (.inl ⟨t, hType, place, hPlace,
        .inr ⟨_, hBare t hType place hPlace hPlaceGeneric, ⟨hPlaceGeneric, rfl⟩, hName⟩⟩)
  · rintro hErasable name hGeneric (⟨t, hType, place, hPlace, hKept | hReplaced⟩ | hThrown)
    · obtain ⟨rfl, hOutside⟩ := hKept
      exact hOutside (hErasable.bare t hType place hPlace hGeneric) hGeneric
    · obtain ⟨_, _, ⟨hPlaceGeneric, rfl⟩, hName⟩ := hReplaced
      exact hErasable.replaced t hType place hPlace hPlaceGeneric name hName hGeneric
    · obtain ⟨t, hSome, hName⟩ := hThrown
      exact hErasable.thrown t hSome name hName hGeneric

/-! ## A function that throws a generic type -/

/-- `func attempt<Failure: Error>(_ id: Int) throws(Failure) -> String` -/
def attempt : FunctionDecl :=
  ⟨"attempt", [⟨"_", .named "Int" [], some "id", false, none, []⟩],
    ⟨false, some "throws", some (.named "Failure" [])⟩, some (.named "String" []),
    [⟨"Failure", some (.named "Error" [])⟩], none, none, [], [], none⟩

def loader : Decl :=
  .type ⟨.structType, "Loader", [], [], none, [], [], none⟩ [.function attempt]

theorem slotType_names_thrown_parameter :
    ∃ dep slot s, Dependency.ofDecl none loader = .ok dep ∧ slot ∈ dep.slots ∧
      slot.signature = .function s ∧
      ∃ name ∈ s.genericNames, name ∈ (slotType slot.signature).typeNames :=
  ⟨_, _, _, rfl, List.mem_singleton.mpr rfl, rfl, "Failure", by decide, by decide⟩

end Mock

end SwiftDerive
