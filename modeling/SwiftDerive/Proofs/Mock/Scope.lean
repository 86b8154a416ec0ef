import SwiftDerive.Proofs.FreeNames
import SwiftDerive.Proofs.Mock.Dependency
import SwiftDerive.Proofs.Mock.Erasure

/-! # Names that leave the scope of a type

The protocol and the mock of a type stand outside its generic clause, and the types of its members are
copied into them as they are. So a generic parameter of the type is free there as soon as an exposed
member uses it.
-/

namespace SwiftDerive.Mock

set_option autoImplicit false

def Exposes (d : Decl) (s : Signature) : Prop :=
  ∃ member ∈ d.members, member.isExposed d.isPublic = true ∧
    Signature.ofDecl member = .ok (some s)

/-- An exposed member uses the name in its signature, outside of a generic clause that binds it. -/
def Uses (d : Decl) (name : String) : Prop :=
  ∃ s, Exposes d s ∧ name ∈ s.freeNames

def Rebinds (d : Decl) (name : String) : Prop :=
  ∃ s : FunctionSignature, Exposes d (.function s) ∧ name ∈ s.genericNames

theorem mem_slots_iff {attachment : Option Position} {d : Decl} {dep : Dependency}
    (h : Dependency.ofDecl attachment d = .ok dep) (s : Signature) :
    (∃ slot ∈ dep.slots, slot.signature = s) ↔ Exposes d s := by
  constructor
  · rintro ⟨slot, hSlot, rfl⟩
    obtain ⟨member, hMember, hExposed, hAnalyzed⟩ := exists_analyzed_of_slot h hSlot
    exact ⟨member, hMember, hExposed, hAnalyzed.ofDecl_eq⟩
  · rintro ⟨member, hMember, hExposed, hSignature⟩
    obtain ⟨s', hSlot, hAnalyzed⟩ :=
      exists_of_mem_left (analyzed_slots h) (List.mem_filter.mpr ⟨hMember, hExposed⟩)
    cases hSignature.symm.trans hAnalyzed.ofDecl_eq
    exact List.mem_map.mp hSlot

/-! ## The types of slots -/

theorem mem_typeNames_erasureOf {s : FunctionSignature} {parameter name : String}
    (hName : name ∈ (erasureOf s parameter).typeNames) :
    name = "Any" ∨ ∃ t ∈ clauseTypes s.genericParameters s.whereClause, name ∈ t.typeNames := by
  unfold erasureOf at hName
  split at hName
  · rename_i hEquated
    exact .inr ⟨_, mem_clauseTypes_of_equatedType? hEquated, hName⟩
  · exact .inl (List.mem_singleton.mp hName)
  · rename_i bound _ hBounds
    exact .inr ⟨bound, mem_clauseTypes_of_bound (hBounds ▸ List.mem_cons_self), hName⟩
  · rw [TypeRef.typeNames, TypeRef.namePlaces, TypeRef.namePlaces, TypeRef.namePlacesAll_eq_flatMap,
      List.map_flatMap, List.mem_flatMap] at hName
    obtain ⟨bound, hBound, hName⟩ := hName
    exact .inr ⟨bound, mem_clauseTypes_of_bound hBound, hName⟩

theorem mem_typeNames_erasedTypes {s : FunctionSignature} {t : TypeRef} (hType : t ∈ s.erasedTypes) :
    t ∈ s.types ∨ t = TypeRef.void := by
  rcases List.mem_append.mp hType with hParameter | hResult
  · exact .inl (List.mem_append_left _ (List.mem_append_left _ (List.mem_append_left _ hParameter)))
  · rw [List.mem_singleton] at hResult
    cases hSome : s.result with
    | none =>
      rw [hSome] at hResult
      exact .inr hResult
    | some result =>
      rw [hSome] at hResult
      refine .inl (List.mem_append_left _ (List.mem_append_left _ (List.mem_append_right _ ?_)))
      rw [hSome]
      exact List.mem_singleton.mpr hResult

theorem mem_typeNames_slotType_function {s : FunctionSignature} {name : String}
    (hName : name ∈ (slotType (.function s)).typeNames) :
    name ∈ ["Any", "Void"] ∨ ∃ t ∈ s.types, name ∈ t.typeNames := by
  rcases (mem_typeNames_slotType_iff s name).mp hName with ⟨t, hType, hName⟩ | ⟨t, hThrown, hName⟩
  · obtain ⟨place, hPlace, ⟨rfl, _⟩ | ⟨u, _, hReplaced, hName⟩⟩ :=
      (TypeRef.mem_typeNames_substitute_iff (erasing s) t name).mp hName
    · rcases mem_typeNames_erasedTypes hType with hOwn | rfl
      · exact .inr ⟨t, hOwn, List.mem_map.mpr ⟨place, hPlace, rfl⟩⟩
      · obtain rfl := List.mem_singleton.mp hPlace
        exact .inl (by decide)
    · obtain ⟨_, rfl⟩ := (erasing_eq_some_iff s place.name u).mp hReplaced
      rcases mem_typeNames_erasureOf hName with rfl | ⟨t, hClause, hName⟩
      · exact .inl (by decide)
      · exact .inr ⟨t, List.mem_append_right _ hClause, hName⟩
  · refine .inr ⟨t, List.mem_append_left _ (List.mem_append_right _ ?_), hName⟩
    rw [hThrown]
    exact List.mem_singleton.mpr rfl

theorem mem_typeNames_slotType {s : Signature} {name : String}
    (hName : name ∈ (slotType s).typeNames) :
    name ∈ ["Any", "Void"] ∨ name ∈ s.freeNames ∨
      ∃ f, s = .function f ∧ name ∈ f.genericNames := by
  cases s with
  | function f =>
    rcases mem_typeNames_slotType_function hName with hWord | hType
    · exact .inl hWord
    · by_cases hBound : name ∈ f.genericNames
      · exact .inr (.inr ⟨f, rfl, hBound⟩)
      · exact .inr (.inl (mem_freeIn_iff.mpr ⟨hType, hBound⟩))
  | property p =>
    have hOwn : (slotType (.property p)).typeNames = p.type.typeNames := by
      simp [slotType, PropertySignature.getterType, TypeRef.typeNames, TypeRef.namePlaces,
        TypeRef.namePlacesElements, TypeRef.namePlacesThrown]
    rw [hOwn] at hName
    exact .inr (.inl (mem_freeIn_iff.mpr ⟨⟨p.type, List.mem_singleton.mpr rfl, hName⟩,
      List.not_mem_nil⟩))

/-! ## The protocol -/

theorem mem_freeNames_protocolDecl_iff (dep : Dependency) (name : String) :
    name ∈ dep.protocolDecl.freeNames ↔
      (∃ t ∈ dep.kind.protocolBase ++ (if dep.isShareable then [shareableMarker] else []),
        name ∈ t.typeNames) ∨ ∃ slot ∈ dep.slots, name ∈ slot.signature.freeNames := by
  rw [Dependency.protocolDecl, Decl.mem_freeNames_type_iff rfl]
  simp only [TypeHeader.types, Construct.typeHeader, clauseTypes, List.filterMap_nil,
    Option.map_none, Option.getD_none, List.flatMap_nil, List.append_nil, List.mem_map,
    exists_exists_and_eq_and, freeNames_requirement]

/-! ## The mock -/

theorem freeNames_forwardingMember (dep : Dependency) (slot : Slot) :
    (dep.forwardingMember slot).freeNames = slot.signature.freeNames := by
  obtain ⟨slotName, signature⟩ := slot
  cases signature with
  | function s =>
    have hParameters : (mapIndexed forwardedParameter s.parameters).map Parameter.type =
        s.parameters.map SignatureParameter.type :=
      map_mapIndexed (f := forwardedParameter) (fun _ _ => rfl) s.parameters
    rw [Dependency.forwardingMember, Decl.freeNames, Signature.freeNames, FunctionDecl.types,
      FunctionSignature.types, Dependency.forwardingFunction, hParameters]
  | property s => exact freeNames_computedVariable s.name s.type rfl rfl s.getOnly _ _

theorem mem_freeNames_slotVariable_iff (slot : Slot) (name : String) :
    name ∈ (Dependency.slotVariable slot).freeNames ↔ name ∈ (slotType slot.signature).typeNames := by
  rw [Dependency.slotVariable, Decl.freeNames, mem_freeIn_iff]
  simp [VariableDecl.types, Construct.storedVariable, Construct.singleBinding, Binding.types]

theorem mem_freeNames_initializer_iff (dep : Dependency) (name : String) :
    name ∈ (Decl.initializer dep.initializer).freeNames ↔
      ∃ slot ∈ dep.slots, name ∈ (slotType slot.signature).typeNames := by
  have hTypes : dep.initializer.types =
      dep.slots.map fun slot => .attributed ["@escaping"] (slotType slot.signature) := by
    simp [InitializerDecl.types, Dependency.initializer, clauseTypes, Effects.empty]
  have hEscaping (t : TypeRef) : (TypeRef.attributed ["@escaping"] t).typeNames = t.typeNames := by
    rw [TypeRef.typeNames, TypeRef.namePlaces, TypeRef.typeNames]
  rw [Decl.freeNames, mem_freeIn_iff, hTypes]
  simp only [List.mem_map, exists_exists_and_eq_and, hEscaping, Dependency.initializer, boundNames,
    List.map_nil, List.not_mem_nil, not_false_eq_true, and_true]

theorem mem_freeNames_mockDecl_iff (dep : Dependency) (name : String) :
    name ∈ dep.mockDecl.freeNames ↔
      (∃ t ∈ dep.mockInheritance, name ∈ t.typeNames) ∨ ∃ slot ∈ dep.slots,
        name ∈ (slotType slot.signature).typeNames ∨ name ∈ slot.signature.freeNames := by
  have hHeader : (Construct.typeHeader dep.kind.typeKind dep.mockName dep.mockInheritance
      dep.mockModifiers []).types = dep.mockInheritance := by
    simp [TypeHeader.types, Construct.typeHeader, clauseTypes]
  rw [Dependency.mockDecl, Decl.mem_freeNames_type_iff rfl, hHeader]
  refine or_congr_right ?_
  constructor
  · rintro ⟨member, hMember, hName⟩
    rcases List.mem_append.mp hMember with hSlots | hInitializer
    · obtain ⟨slot, hSlot, hPair⟩ := List.mem_flatMap.mp hSlots
      rcases List.mem_cons.mp hPair with rfl | hForwarding
      · exact ⟨slot, hSlot, .inl ((mem_freeNames_slotVariable_iff slot name).mp hName)⟩
      · obtain rfl := List.mem_singleton.mp hForwarding
        exact ⟨slot, hSlot, .inr (freeNames_forwardingMember dep slot ▸ hName)⟩
    · obtain rfl := List.mem_singleton.mp hInitializer
      obtain ⟨slot, hSlot, hName⟩ := (mem_freeNames_initializer_iff dep name).mp hName
      exact ⟨slot, hSlot, .inl hName⟩
  · rintro ⟨slot, hSlot, hStored | hForwarded⟩
    · refine ⟨_, List.mem_append_left _ (List.mem_flatMap.mpr ⟨slot, hSlot, List.mem_cons_self⟩), ?_⟩
      exact (mem_freeNames_slotVariable_iff slot name).mpr hStored
    · refine ⟨dep.forwardingMember slot, List.mem_append_left _ (List.mem_flatMap.mpr
        ⟨slot, hSlot, List.mem_cons_of_mem _ List.mem_cons_self⟩), ?_⟩
      rwa [freeNames_forwardingMember]

/-! ## What is free in the artifacts -/

def protocolWords : List String := ["AnyObject", "Actor", "Sendable"]

/-- The names that the generator puts into a mock on its own. -/
def mockWords (dep : Dependency) : List String := [dep.protocolName, "Sendable", "Any", "Void"]

theorem mem_protocolWords {dep : Dependency} {t : TypeRef} {name : String}
    (hType : t ∈ dep.kind.protocolBase ++ if dep.isShareable then [shareableMarker] else [])
    (hName : name ∈ t.typeNames) : name ∈ protocolWords := by
  rcases List.mem_append.mp hType with hBase | hShareable
  · cases hKind : dep.kind with
    | value =>
      rw [hKind] at hBase
      cases hBase
    | reference =>
      rw [hKind] at hBase
      obtain rfl := List.mem_singleton.mp hBase
      obtain rfl := List.mem_singleton.mp hName
      decide
    | actor =>
      rw [hKind] at hBase
      obtain rfl := List.mem_singleton.mp hBase
      obtain rfl := List.mem_singleton.mp hName
      decide
  · split at hShareable
    · obtain rfl := List.mem_singleton.mp hShareable
      obtain rfl := List.mem_singleton.mp hName
      decide
    · cases hShareable

theorem mem_mockWords {dep : Dependency} {t : TypeRef} {name : String}
    (hType : t ∈ dep.mockInheritance) (hName : name ∈ t.typeNames) : name ∈ mockWords dep := by
  rcases List.mem_cons.mp hType with rfl | hShareable
  · obtain rfl := List.mem_singleton.mp hName
    exact List.mem_cons_self
  · split at hShareable
    · obtain rfl := List.mem_singleton.mp hShareable
      obtain rfl := List.mem_singleton.mp hName
      exact List.mem_cons_of_mem _ List.mem_cons_self
    · cases hShareable

/-- A name that is not one of the generator's own is free in the protocol exactly if an exposed
member uses it. It is then free in the mock, where besides only names can be that an exposed function
rebinds. -/
theorem free_in_artifacts {attachment : Option Position} {d : Decl} {dep : Dependency}
    (h : Dependency.ofDecl attachment d = .ok dep) (name : String) :
    (name ∈ dep.protocolDecl.freeNames → name ∈ protocolWords ∨ Uses d name) ∧
      (Uses d name → name ∈ dep.protocolDecl.freeNames ∧ name ∈ dep.mockDecl.freeNames) ∧
      (name ∈ dep.mockDecl.freeNames → name ∈ mockWords dep ∨ Uses d name ∨ Rebinds d name) := by
  have hExposes {slot : Slot} (hSlot : slot ∈ dep.slots) : Exposes d slot.signature :=
    (mem_slots_iff h slot.signature).mp ⟨slot, hSlot, rfl⟩
  refine ⟨?_, ?_, ?_⟩
  · intro hFree
    rcases (mem_freeNames_protocolDecl_iff dep name).mp hFree with
      ⟨t, hType, hName⟩ | ⟨slot, hSlot, hName⟩
    · exact .inl (mem_protocolWords hType hName)
    · exact .inr ⟨slot.signature, hExposes hSlot, hName⟩
  · rintro ⟨s, hExposed, hName⟩
    obtain ⟨slot, hSlot, rfl⟩ := (mem_slots_iff h s).mpr hExposed
    exact ⟨(mem_freeNames_protocolDecl_iff dep name).mpr (.inr ⟨slot, hSlot, hName⟩),
      (mem_freeNames_mockDecl_iff dep name).mpr (.inr ⟨slot, hSlot, .inr hName⟩)⟩
  · intro hFree
    rcases (mem_freeNames_mockDecl_iff dep name).mp hFree with
      ⟨t, hType, hName⟩ | ⟨slot, hSlot, hStored | hName⟩
    · exact .inl (mem_mockWords hType hName)
    · rcases mem_typeNames_slotType hStored with hWord | hName | ⟨f, hFunction, hBound⟩
      · exact .inl (List.mem_cons_of_mem _ (List.mem_cons_of_mem _ hWord))
      · exact .inr (.inl ⟨slot.signature, hExposes hSlot, hName⟩)
      · exact .inr (.inr ⟨f, hFunction ▸ hExposes hSlot, hBound⟩)
    · exact .inr (.inl ⟨slot.signature, hExposes hSlot, hName⟩)

/-! ## A generic type -/

/-- `struct Box<T> { func get() -> T }` -/
def box : Decl :=
  .type ⟨.structType, "Box", [⟨"T", none⟩], [], none, [], [], none⟩
    [.function ⟨"get", [], Effects.empty, some (.named "T" []), [], none, none, [], [], none⟩]

theorem uses_box : Uses box "T" :=
  ⟨_, ⟨_, List.mem_singleton.mpr rfl, rfl, rfl⟩, by decide⟩

theorem free_in_artifacts_box :
    ∃ dep, Dependency.ofDecl none box = .ok dep ∧ Uses box "T" ∧
      "T" ∈ dep.protocolDecl.freeNames ∧ "T" ∈ dep.mockDecl.freeNames := by
  have hBox : Dependency.ofDecl none box = .ok _ := rfl
  obtain ⟨_, hArtifacts, _⟩ := free_in_artifacts hBox "T"
  exact ⟨_, hBox, uses_box, hArtifacts uses_box⟩

/-- The generic parameter of the type is left in both artifacts, although no member rebinds it. -/
theorem box_frees_parameter :
    ∃ header members dep, box = .type header members ∧ "T" ∈ boundNames header.genericParameters ∧
      Dependency.ofDecl none box = .ok dep ∧
      "T" ∈ dep.protocolDecl.freeNames ∧ "T" ∈ dep.mockDecl.freeNames ∧ ¬ Rebinds box "T" := by
  refine ⟨_, _, _, rfl, by decide, rfl, by decide, by decide, ?_⟩
  rintro ⟨s, ⟨member, hMember, _, hSignature⟩, hName⟩
  obtain rfl := List.mem_singleton.mp hMember
  cases hSignature
  cases hName

end SwiftDerive.Mock
