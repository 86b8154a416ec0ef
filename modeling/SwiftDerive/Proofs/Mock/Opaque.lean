import SwiftDerive.Proofs.Mock.Dependency
import SwiftDerive.Proofs.Mock.Erasure
import SwiftDerive.Proofs.Specifiers

/-! # Opaque types that are left in a protocol and its mock

A member whose result type stands behind `some` is refused, and in a slot a parameter type behind
`some` becomes one behind `any`. Both look at what stands in front of the type and not into it, and
a variadic parameter is made an array before. So `some` is left wherever a type hides it.
-/

namespace SwiftDerive

set_option autoImplicit false

def Decl.resultTypes : Decl → List TypeRef
  | .function f => f.result.toList
  | .variable v => v.bindings.filterMap Binding.type
  | _ => []

def Signature.HasPlainClauses : Signature → Prop
  | .function s => ∀ t ∈ clauseTypes s.genericParameters s.whereClause, "some" ∉ t.specifiers
  | .property _ => True

namespace Mock

def storedType : Signature → TypeRef → TypeRef
  | .function s, t => t.substitute (erasing s)
  | .property _, t => t

/-- A type of the member hides `some`, where `stored` gives the types as they are looked at. -/
inductive LeavesOpaque (stored : TypeRef → TypeRef) : Signature → Prop where
  | parameter {s : FunctionSignature} {p : SignatureParameter} (hMem : p ∈ s.parameters)
      (hSingle : p.variadic = false) (hSome : "some" ∈ (stored p.type).innerSpecifiers) :
      LeavesOpaque stored (.function s)
  | variadic {s : FunctionSignature} {p : SignatureParameter} (hMem : p ∈ s.parameters)
      (hVariadic : p.variadic = true) (hSome : "some" ∈ (stored p.type).specifiers) :
      LeavesOpaque stored (.function s)
  | result {s : FunctionSignature}
      (hSome : "some" ∈ (stored (s.result.getD TypeRef.void)).specifiers) :
      LeavesOpaque stored (.function s)
  | thrown {s : FunctionSignature} {t : TypeRef} (hThrown : s.thrown = some t)
      (hSome : "some" ∈ t.specifiers) : LeavesOpaque stored (.function s)
  | property {s : PropertySignature} (hSome : "some" ∈ (stored s.type).specifiers) :
      LeavesOpaque stored (.property s)

/-! ## Requirements -/

theorem resultTypes_requirement (excluded : List String) (s : Signature) :
    (Requirement.ofSignature excluded s).resultTypes = s.resultType?.toList := by
  cases s <;> rfl

/-! ## Slots -/

theorem some_mem_specifiers_opened_iff (t : TypeRef) :
    "some" ∈ (opened t).specifiers ↔ "some" ∈ t.innerSpecifiers := by
  match t with
  | .attributed words base =>
    have hReplaced : "some" ∉ words.map fun s => if s == "some" then "any" else s := by
      intro hMem
      obtain ⟨word, _, hSame⟩ := List.mem_map.mp hMem
      split at hSame
      · exact absurd hSame (by decide)
      · next hOther => exact hOther (by simp [hSame])
    rw [opened, TypeRef.specifiers, List.mem_append, or_iff_right hReplaced]
    rfl
  | .named .. | .member .. | .optional .. | .array _ | .dictionary .. | .tuple _ | .function ..
  | .composition _ | .metatype .. => rfl

theorem some_mem_specifiers_slotElement_iff (s : FunctionSignature) (p : SignatureParameter) :
    "some" ∈ (slotElement s p).type.specifiers ↔
      (p.variadic = false ∧ "some" ∈ (p.type.substitute (erasing s)).innerSpecifiers) ∨
        (p.variadic = true ∧ "some" ∈ (p.type.substitute (erasing s)).specifiers) := by
  rw [slotElement, slotParameterType, some_mem_specifiers_opened_iff]
  cases p.variadic <;> simp [TypeRef.innerSpecifiers, TypeRef.specifiers]

theorem some_mem_specifiers_slotType_iff (s : Signature) :
    "some" ∈ (slotType s).specifiers ↔ LeavesOpaque (storedType s) s := by
  cases s with
  | property s =>
    have hType : (slotType (.property s)).specifiers = s.type.specifiers := by
      simp [slotType, PropertySignature.getterType, TypeRef.specifiers, TypeRef.specifiersElements,
        TypeRef.specifiersThrown]
    rw [hType]
    constructor
    · intro hSome
      exact .property hSome
    · rintro ⟨⟩
      assumption
  | function s =>
    rw [slotType_function, TypeRef.specifiers, TypeRef.specifiersElements_eq_flatMap,
      List.mem_append, List.mem_append, List.flatMap_map, List.mem_flatMap]
    constructor
    · rintro ((⟨p, hMem, hSome⟩ | hResult) | hThrown)
      · rcases (some_mem_specifiers_slotElement_iff s p).mp hSome with
          ⟨hSingle, hInner⟩ | ⟨hVariadic, hAny⟩
        · exact .parameter hMem hSingle hInner
        · exact .variadic hMem hVariadic hAny
      · exact .result hResult
      · cases hSome : s.thrown with
        | none =>
          rw [hSome] at hThrown
          cases hThrown
        | some t =>
          rw [hSome] at hThrown
          exact .thrown hSome hThrown
    · intro h
      cases h with
      | parameter hMem hSingle hSome =>
        have hElement := (some_mem_specifiers_slotElement_iff s _).mpr (.inl ⟨hSingle, hSome⟩)
        exact .inl (.inl ⟨_, hMem, hElement⟩)
      | variadic hMem hVariadic hSome =>
        have hElement := (some_mem_specifiers_slotElement_iff s _).mpr (.inr ⟨hVariadic, hSome⟩)
        exact .inl (.inl ⟨_, hMem, hElement⟩)
      | result hSome => exact .inl (.inr hSome)
      | thrown hThrown hSome =>
        rw [hThrown]
        exact .inr hSome

/-! ## Clauses without `some` -/

theorem LeavesOpaque.imp {f g : TypeRef → TypeRef}
    (hAny : ∀ t, "some" ∈ (f t).specifiers → "some" ∈ (g t).specifiers)
    (hInner : ∀ t, "some" ∈ (f t).innerSpecifiers → "some" ∈ (g t).innerSpecifiers) {s : Signature}
    (h : LeavesOpaque f s) : LeavesOpaque g s := by
  cases h with
  | parameter hMem hSingle hSome => exact .parameter hMem hSingle (hInner _ hSome)
  | variadic hMem hVariadic hSome => exact .variadic hMem hVariadic (hAny _ hSome)
  | result hSome => exact .result (hAny _ hSome)
  | thrown hThrown hSome => exact .thrown hThrown hSome
  | property hSome => exact .property (hAny _ hSome)

theorem some_notMem_specifiers_erasureOf {s : FunctionSignature}
    (h : (Signature.function s).HasPlainClauses) (name : String) :
    "some" ∉ (erasureOf s name).specifiers := by
  unfold erasureOf
  split
  · next hEquated => exact h _ (mem_clauseTypes_of_equatedType? hEquated)
  · exact List.not_mem_nil
  · next bound _ hBounds =>
    have hBound := h bound (mem_clauseTypes_of_bound (hBounds ▸ List.mem_cons_self))
    simpa [TypeRef.specifiers] using hBound
  · rw [TypeRef.specifiers, TypeRef.specifiers, TypeRef.specifiersAll_eq_flatMap]
    intro hMem
    rcases List.mem_cons.mp hMem with hAny | hBounds
    · exact absurd hAny (by decide)
    · obtain ⟨bound, hBound, hSome⟩ := List.mem_flatMap.mp hBounds
      exact h bound (mem_clauseTypes_of_bound hBound) hSome

/-- With plain clauses erasure neither brings nor takes `some`. -/
theorem leavesOpaque_storedType_iff {s : Signature} (h : s.HasPlainClauses) :
    LeavesOpaque (storedType s) s ↔ LeavesOpaque id s := by
  cases s with
  | property s => rfl
  | function s =>
    -- Whatever erasure puts in comes from the clauses, `any` aside.
    have hPlain : ∀ name t, erasing s name = some t → "some" ∉ t.specifiers := by
      intro name t hErased
      obtain ⟨_, rfl⟩ := (erasing_eq_some_iff s name t).mp hErased
      exact some_notMem_specifiers_erasureOf h name
    have hAny (t : TypeRef) := TypeRef.mem_specifiers_substitute_of_plain hPlain t
    have hInner (t : TypeRef) := TypeRef.mem_innerSpecifiers_substitute_of_plain hPlain t
    constructor
    · exact .imp (fun t => (hAny t).mp) fun t => (hInner t).mp
    · exact .imp (fun t => (hAny t).mpr) fun t => (hInner t).mpr

/-! ## What is left -/

theorem some_mem_specifiers_resultType_iff {member : Decl} {s : Signature} (h : Analyzed member s)
    {t : TypeRef} (hResult : s.resultType? = some t) :
    "some" ∈ t.specifiers ↔ "some" ∈ t.innerSpecifiers := by
  have hClear := ((analyzeMember_eq_ok_iff member _).mp h).2 s rfl
  rw [hResult, Option.any_some] at hClear
  rw [TypeRef.mem_specifiers_iff, or_iff_right (Bool.eq_false_iff.mp hClear)]

/-- A requirement has `some` in its result type exactly if it is declared inside of it, and the type
of a slot exactly if a type that is stored there hides it: anywhere in a variadic parameter, a
result or a thrown type, and elsewhere than in front of any other parameter. With plain clauses
these are the types as they are declared. -/
theorem some_left_iff_hidden {attachment : Option Position} {d : Decl} {dep : Dependency}
    (h : Dependency.ofDecl attachment d = .ok dep) {slot : Slot} (hSlot : slot ∈ dep.slots) :
    ((∃ t ∈ (Requirement.ofSignature dep.kind.excludedModifiers slot.signature).resultTypes,
        "some" ∈ t.specifiers) ↔
        ∃ t, slot.signature.resultType? = some t ∧ "some" ∈ t.innerSpecifiers) ∧
      ("some" ∈ (slotType slot.signature).specifiers ↔
        LeavesOpaque (storedType slot.signature) slot.signature) ∧
      (slot.signature.HasPlainClauses →
        ("some" ∈ (slotType slot.signature).specifiers ↔ LeavesOpaque id slot.signature)) := by
  obtain ⟨member, _, _, hAnalyzed⟩ := exists_analyzed_of_slot h hSlot
  have hSlotType := some_mem_specifiers_slotType_iff slot.signature
  refine ⟨?_, hSlotType, fun hPlain => hSlotType.trans (leavesOpaque_storedType_iff hPlain)⟩
  rw [resultTypes_requirement]
  simp only [Option.mem_toList]
  exact exists_congr fun t => and_congr_right fun hResult =>
    some_mem_specifiers_resultType_iff hAnalyzed hResult

/-! ## An array of opaque types and a variadic parameter -/

/-- `struct Gallery { func pages() -> [some View] }` -/
def gallery : Decl :=
  .type ⟨.structType, "Gallery", [], [], none, [], [], none⟩
    [.function ⟨"pages", [], .empty, some (.array (.attributed ["some"] (.named "View" []))), [],
      none, none, [], [], none⟩]

def logger : Decl :=
  .type ⟨.structType, "Logger", [], [], none, [], [], none⟩
    [.function ⟨"log", [⟨"_", .attributed ["some"] (.named "Encodable" []), some "items", true,
      none, []⟩], .empty, none, [], none, none, [], [], none⟩]

theorem some_left_iff_hidden_gallery :
    ∃ dep slot, Dependency.ofDecl none gallery = .ok dep ∧ slot ∈ dep.slots ∧
      slot.signature.HasPlainClauses ∧
      (∃ t ∈ (Requirement.ofSignature dep.kind.excludedModifiers slot.signature).resultTypes,
        "some" ∈ t.specifiers) ∧
      "some" ∈ (slotType slot.signature).specifiers := by
  have hGallery : Dependency.ofDecl none gallery = .ok _ := rfl
  obtain ⟨hRequirement, _, hSlot⟩ := some_left_iff_hidden hGallery (List.mem_singleton.mpr rfl)
  have hPlain : ∀ t ∈ clauseTypes [] none, "some" ∉ t.specifiers := List.forall_mem_nil _
  refine ⟨_, _, hGallery, List.mem_singleton.mpr rfl, hPlain, ?_, ?_⟩
  · exact hRequirement.mpr ⟨_, rfl, by decide⟩
  · exact (hSlot hPlain).mpr (.result (by decide))

theorem some_left_gallery_logger :
    (∃ dep, Dependency.ofDecl none gallery = .ok dep ∧
      ∃ slot ∈ dep.slots,
        ∃ t ∈ (Requirement.ofSignature dep.kind.excludedModifiers slot.signature).resultTypes,
          "some" ∈ t.specifiers) ∧
      ∃ dep, Dependency.ofDecl none logger = .ok dep ∧
        ∃ slot ∈ dep.slots, "some" ∈ (slotType slot.signature).specifiers :=
  ⟨⟨_, rfl, _, List.mem_singleton.mpr rfl, _, List.mem_singleton.mpr rfl, by decide⟩,
    _, rfl, _, List.mem_singleton.mpr rfl, by decide⟩

end Mock

end SwiftDerive
