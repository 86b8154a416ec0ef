import Mathlib.Data.List.Forall2
import SwiftDerive.Mock.Dependency
import SwiftDerive.Proofs.Except
import SwiftDerive.Proofs.Lists
import SwiftDerive.Proofs.Nesting
import SwiftDerive.Proofs.Signature

/-! # Accepted dependencies

A declaration is a dependency when its kind is one and all its exposed members have signatures. Every
slot then holds the signature of an exposed member.
-/

namespace SwiftDerive

set_option autoImplicit false

def TypeHeader.isPublic (header : TypeHeader) : Bool := Decl.isPublic (.type header [])

namespace Mock

theorem analyzeMember_eq_ok_iff (member : Decl) (result : Option Signature) :
    analyzeMember member = .ok result ↔ Signature.ofDecl member = .ok result ∧
      ∀ s, result = some s → s.resultType?.any (·.hasSpecifier "some") = false := by
  unfold analyzeMember
  cases Signature.ofDecl member with
  | error e => cases e <;> simp
  | ok signature =>
    cases signature with
    | none =>
      constructor
      · intro h
        cases h
        exact ⟨rfl, fun s hSome => nomatch hSome⟩
      · rintro ⟨hSame, _⟩
        cases hSame
        rfl
    | some s =>
      by_cases hOpaque : s.resultType?.any (·.hasSpecifier "some") = true
      · simp only [if_pos hOpaque]
        constructor
        · intro h
          cases h
        · rintro ⟨hSame, hClear⟩
          cases hSame
          exact absurd (hOpaque.symm.trans (hClear s rfl)) Bool.noConfusion
      · simp only [if_neg hOpaque]
        constructor
        · intro h
          cases h
          refine ⟨rfl, ?_⟩
          intro s' hSome
          cases hSome
          exact Bool.eq_false_iff.mpr hOpaque
        · rintro ⟨hSame, _⟩
          cases hSame
          rfl

theorem exists_of_exposed {isPublic : Bool} {member : Decl}
    (hExposed : member.isExposed isPublic = true) {result : Option Signature}
    (h : analyzeMember member = .ok result) : ∃ s, result = some s := by
  have hSignature := ((analyzeMember_eq_ok_iff member result).mp h).1
  cases result with
  | some s => exact ⟨s, rfl⟩
  | none =>
    match member with
    | .function _ => cases hSignature
    | .variable v =>
      rw [Signature.ofDecl, map_eq_ok_iff] at hSignature
      obtain ⟨_, _, hSame⟩ := hSignature
      cases hSame
    | .initializer _ | .enumCase _ | .type _ _ | .raw _ _ | .statement _ | .file _ => cases hExposed

def Analyzed (member : Decl) (s : Signature) : Prop :=
  analyzeMember member = .ok (some s)

theorem Analyzed.ofDecl_eq {member : Decl} {s : Signature} (h : Analyzed member s) :
    Signature.ofDecl member = .ok (some s) :=
  ((analyzeMember_eq_ok_iff member _).mp h).1

theorem analyzed_analyzeMembers {isPublic : Bool} {members : List Decl}
    {signatures : List Signature}
    (hExposed : ∀ member ∈ members, member.isExposed isPublic = true)
    (h : analyzeMembers members = .ok signatures) :
    List.Forall₂ Analyzed members signatures := by
  induction members generalizing signatures with
  | nil =>
    cases h
    exact .nil
  | cons member members ih =>
    obtain ⟨hHead, hTail⟩ := List.forall_mem_cons.mp hExposed
    rw [analyzeMembers] at h
    cases hResult : analyzeMember member with
    | error e =>
      rw [hResult] at h
      cases h
    | ok result =>
      obtain ⟨s, rfl⟩ := exists_of_exposed hHead hResult
      cases hRest : analyzeMembers members with
      | error e =>
        rw [hResult, hRest] at h
        cases h
      | ok rest =>
        rw [hResult, hRest] at h
        cases h
        exact .cons hResult (ih hTail hRest)

/-! ## Slots -/

theorem signatures_slotsFrom (overloaded : String → Bool) (taken : List String)
    (signatures : List Signature) :
    (slotsFrom overloaded taken signatures).map Slot.signature = signatures := by
  induction signatures generalizing taken with
  | nil => rfl
  | cons s ss ih =>
    rw [slotsFrom, List.map_cons, ih]

theorem signatures_assignSlots (signatures : List Signature) :
    (assignSlots signatures).map Slot.signature = signatures :=
  signatures_slotsFrom _ _ signatures

theorem Dependency.ofDecl_type {header : TypeHeader} {kind : DependencyKind}
    (hKind : DependencyKind.ofTypeKind? header.kind = some kind) (attachment : Option Position)
    (members : List Decl) :
    Dependency.ofDecl attachment (.type header members) =
      (analyzeMembers (members.filter (Decl.isExposed header.isPublic))).map fun signatures =>
        ⟨header.name, kind, header.isPublic, header.inheritance.any isShareableMarker,
          assignSlots signatures⟩ := by
  have hPublic : (Decl.type header members).isPublic = header.isPublic := rfl
  rw [Dependency.ofDecl, hKind, hPublic]
  cases analyzeMembers (members.filter (Decl.isExposed header.isPublic)) <;> rfl

theorem Dependency.ofDecl_eq_ok_iff (attachment : Option Position) (d : Decl)
    (dep : Dependency) :
    Dependency.ofDecl attachment d = .ok dep ↔ ∃ header members kind signatures,
      d = .type header members ∧ DependencyKind.ofTypeKind? header.kind = some kind ∧
      analyzeMembers (members.filter (Decl.isExposed d.isPublic)) = .ok signatures ∧
      dep = ⟨header.name, kind, d.isPublic, header.inheritance.any isShareableMarker,
        assignSlots signatures⟩ := by
  cases d with
  | type header members =>
    constructor
    · intro h
      cases hKind : DependencyKind.ofTypeKind? header.kind with
      | none => simp [Dependency.ofDecl, hKind] at h
      | some kind =>
        rw [Dependency.ofDecl_type hKind] at h
        obtain ⟨signatures, hSignatures, rfl⟩ := (map_eq_ok_iff _ _ dep).mp h
        exact ⟨header, members, kind, signatures, rfl, hKind, hSignatures, rfl⟩
    · rintro ⟨_, _, kind, signatures, hSame, hKind, hSignatures, rfl⟩
      cases hSame
      rw [Dependency.ofDecl_type hKind]
      exact (map_eq_ok_iff _ _ _).mpr ⟨signatures, hSignatures, rfl⟩
  | _ => simp [Dependency.ofDecl]

theorem analyzed_slots {attachment : Option Position} {d : Decl} {dep : Dependency}
    (h : Dependency.ofDecl attachment d = .ok dep) :
    List.Forall₂ Analyzed (d.members.filter (Decl.isExposed d.isPublic))
      (dep.slots.map Slot.signature) := by
  obtain ⟨_, members, _, signatures, rfl, _, hSignatures, rfl⟩ :=
    (Dependency.ofDecl_eq_ok_iff attachment d dep).mp h
  rw [signatures_assignSlots]
  exact analyzed_analyzeMembers (fun _ hMember => (List.mem_filter.mp hMember).2) hSignatures

theorem exists_analyzed_of_slot {attachment : Option Position} {d : Decl} {dep : Dependency}
    (h : Dependency.ofDecl attachment d = .ok dep) {slot : Slot} (hSlot : slot ∈ dep.slots) :
    ∃ member ∈ d.members, member.isExposed d.isPublic = true ∧ Analyzed member slot.signature := by
  obtain ⟨member, hMember, hAnalyzed⟩ :=
    exists_of_mem_right (analyzed_slots h) (List.mem_map.mpr ⟨slot, hSlot, rfl⟩)
  obtain ⟨hMember, hExposed⟩ := List.mem_filter.mp hMember
  exact ⟨member, hMember, hExposed, hAnalyzed⟩

theorem exists_member_of_slot {attachment : Option Position} {d : Decl} {dep : Dependency}
    (h : Dependency.ofDecl attachment d = .ok dep) {slot : Slot} (hSlot : slot ∈ dep.slots) :
    ∃ member ∈ d.members, Signature.ofDecl member = .ok (some slot.signature) := by
  obtain ⟨member, hMember, _, hAnalyzed⟩ := exists_analyzed_of_slot h hSlot
  exact ⟨member, hMember, hAnalyzed.ofDecl_eq⟩

theorem isIdentifier_of_slot {attachment : Option Position} {d : Decl} {dep : Dependency}
    (h : Dependency.ofDecl attachment d = .ok dep) {slot : Slot} (hSlot : slot ∈ dep.slots)
    {s : PropertySignature} (hProperty : slot.signature = .property s) :
    isIdentifier s.name = true := by
  obtain ⟨member, _, hMember⟩ := exists_member_of_slot h hSlot
  rw [hProperty] at hMember
  exact Signature.isIdentifier_of_property hMember

theorem exists_function_of_slot {attachment : Option Position} {d : Decl} {dep : Dependency}
    (h : Dependency.ofDecl attachment d = .ok dep) {slot : Slot} (hSlot : slot ∈ dep.slots)
    {s : FunctionSignature} (hFunction : slot.signature = .function s) :
    ∃ f, s = Signature.ofFunction f := by
  obtain ⟨member, _, hMember⟩ := exists_member_of_slot h hSlot
  rw [hFunction] at hMember
  obtain ⟨f, _, hSignature⟩ := (Signature.ofDecl_eq_function_iff member s).mp hMember
  exact ⟨f, hSignature⟩

/-! ## Indexed maps -/

section Indexed

variable {α β γ : Type}

theorem map_mapIndexed {f : Nat → α → β} {g : β → γ} {h : α → γ}
    (hSame : ∀ index item, g (f index item) = h item) (items : List α) :
    (mapIndexed f items).map g = items.map h := by
  calc
    (mapIndexed f items).map g = items.zipIdx.map (fun item => h item.1) := by
      rw [mapIndexed, List.map_map]
      exact List.map_congr_left fun item _ => hSame item.2 item.1
    _ = (items.zipIdx.map Prod.fst).map h := List.map_map.symm
    _ = items.map h := by rw [List.zipIdx_map_fst]

theorem zip_mapIndexed (f : Nat → α → β) (g : α → γ) (items : List α) :
    (mapIndexed f items).zip (items.map g) =
      mapIndexed (fun index item => (f index item, g item)) items := by
  have hMap : items.map g = items.zipIdx.map fun item => g item.1 := by
    calc
      items.map g = (items.zipIdx.map Prod.fst).map g := by rw [List.zipIdx_map_fst]
      _ = items.zipIdx.map fun item => g item.1 := List.map_map
  rw [mapIndexed, hMap]
  exact List.zip_map'

theorem forall₂_mapIndexed {R : β → γ → Prop} {f : Nat → α → β} {g : Nat → α → γ}
    {items : List α} (h : ∀ item ∈ items, ∀ index, R (f index item) (g index item)) :
    List.Forall₂ R (mapIndexed f items) (mapIndexed g items) := by
  rw [mapIndexed, mapIndexed, List.forall₂_map_left_iff, List.forall₂_map_right_iff,
    List.forall₂_same]
  rintro ⟨item, index⟩ hMem
  exact h item (List.fst_mem_of_mem_zipIdx hMem) index

end Indexed

/-! ## A class with a function and a property -/

def clientHeader : TypeHeader :=
  ⟨.classType, "Client", [], [.named "Sendable" []], none, [], [⟨"public", none⟩], none⟩

/-- `public nonisolated func fetch(_ id: String, count: Int...) async rethrows -> Data` -/
def clientFetch : FunctionDecl :=
  ⟨"fetch", [⟨"_", .named "String" [], some "id", false, none, []⟩,
    ⟨"count", .named "Int" [], none, true, none, []⟩], ⟨true, some "rethrows", none⟩,
    some (.named "Data" []), [], none, none, [], [⟨"public", none⟩, ⟨"nonisolated", none⟩], none⟩

def clientTitle : VariableDecl :=
  ⟨"var", [⟨"title", some (.named "String" []), none, none⟩], [],
    [⟨"public", none⟩, ⟨"private", some "set"⟩], none⟩

def client : Decl :=
  .type clientHeader [.function clientFetch, .variable clientTitle]

def clientDependency : Dependency where
  name := "Client"
  kind := .reference
  isPublic := true
  isShareable := true
  slots := [⟨"fetch", .function (Signature.ofFunction clientFetch)⟩,
    ⟨"title", .property ⟨"title", .named "String" [], true, false, false, [],
      [⟨"public", none⟩, ⟨"private", some "set"⟩]⟩⟩]

theorem ofDecl_client : Dependency.ofDecl none client = .ok clientDependency := rfl

end Mock

end SwiftDerive
