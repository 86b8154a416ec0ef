import SwiftDerive.Proofs.Mock.Dependency

/-! # Names of slots and of members

A mock declares the property of each slot and, beside it, the member itself. The names of slots are
kept apart from each other and not from those of the members: a member named like the property of
another one's slot is declared twice.
-/

namespace SwiftDerive.Mock

set_option autoImplicit false

def ownName (signatures : List Signature) (s : Signature) : String :=
  baseName ((signatures.map Signature.name).count s.name > 1) s

def Clash (slots : List Slot) : Prop :=
  ∃ slot ∈ slots, ∃ other ∈ slots, slot.property = Text.plainName other.signature.name

/-- A member is named like the property of the slot that another one asks for, as a stored `_count`
behind `count`. -/
def BacksAnother (signatures : List Signature) : Prop :=
  ∃ s ∈ signatures, ∃ other ∈ signatures,
    Text.plainName other.name = "_" ++ Text.plainName (ownName signatures s)

def DistinctOwnNames (signatures : List Signature) : Prop :=
  (signatures.map fun s => Text.plainName (ownName signatures s)).Nodup

theorem freeName_of_notMem {taken : List String} {base : String}
    (h : Text.plainName base ∉ taken) : freeName taken base = base := by
  have hFree : (!taken.contains (Text.plainName (candidate base 0))) = true := by
    simpa [candidate] using h
  rw [freeName, List.range_succ_eq_map, List.find?_cons, hFree]
  rfl

section Slots

variable (overloaded : String → Bool)

theorem baseName_taken_slotsFrom (taken : List String) {signatures : List Signature}
    {s : Signature} (h : s ∈ signatures) :
    Text.plainName (baseName (overloaded s.name) s) ∈ taken ∨
      ∃ slot ∈ slotsFrom overloaded taken signatures,
        Text.plainName slot.name = Text.plainName (baseName (overloaded s.name) s) := by
  induction signatures generalizing taken with
  | nil => cases h
  | cons head signatures ih =>
    rw [slotsFrom]
    rcases List.mem_cons.mp h with rfl | hTail
    · by_cases hTaken : Text.plainName (baseName (overloaded s.name) s) ∈ taken
      · exact .inl hTaken
      · exact .inr ⟨_, List.mem_cons_self, by rw [freeName_of_notMem hTaken]⟩
    · rcases ih _ hTail with hTaken | ⟨slot, hSlot, hName⟩
      · -- What is taken for the tail is the name of the first slot, or was taken before it.
        rcases List.mem_cons.mp hTaken with hHead | hBefore
        · exact .inr ⟨_, List.mem_cons_self, hHead.symm⟩
        · exact .inl hBefore
      · exact .inr ⟨slot, List.mem_cons_of_mem _ hSlot, hName⟩

/-- As long as no name is asked for twice, each slot has the name asked for. -/
theorem slotsFrom_of_distinct {taken : List String} {signatures : List Signature}
    (hFresh : ∀ s ∈ signatures, Text.plainName (baseName (overloaded s.name) s) ∉ taken)
    (hDistinct : (signatures.map fun s =>
      Text.plainName (baseName (overloaded s.name) s)).Nodup) :
    slotsFrom overloaded taken signatures =
      signatures.map fun s => ⟨baseName (overloaded s.name) s, s⟩ := by
  induction signatures generalizing taken with
  | nil => rfl
  | cons head signatures ih =>
    obtain ⟨hNew, hRest⟩ := List.nodup_cons.mp hDistinct
    rw [slotsFrom, freeName_of_notMem (hFresh head List.mem_cons_self), List.map_cons]
    refine congrArg _ (ih ?_ hRest)
    intro s hMem hTaken
    rcases List.mem_cons.mp hTaken with hHead | hBefore
    · exact hNew (List.mem_map.mpr ⟨s, hMem, hHead⟩)
    · exact hFresh s (List.mem_cons_of_mem _ hMem) hBefore

end Slots

theorem exists_slot_of_signature {signatures : List Signature} {s : Signature}
    (h : s ∈ signatures) : ∃ slot ∈ assignSlots signatures, slot.signature = s := by
  rw [← signatures_assignSlots signatures] at h
  exact List.mem_map.mp h

theorem clash_of_backsAnother {signatures : List Signature} (h : BacksAnother signatures) :
    Clash (assignSlots signatures) := by
  obtain ⟨s, hMem, other, hOther, hName⟩ := h
  obtain ⟨otherSlot, hOtherSlot, rfl⟩ := exists_slot_of_signature hOther
  rcases baseName_taken_slotsFrom (fun name => (signatures.map Signature.name).count name > 1) []
      hMem with hTaken | ⟨slot, hSlot, hSame⟩
  · cases hTaken
  · refine ⟨slot, hSlot, otherSlot, hOtherSlot, ?_⟩
    rw [Slot.property, hSame, hName]
    rfl

theorem assignSlots_of_distinct {signatures : List Signature} (h : DistinctOwnNames signatures) :
    assignSlots signatures = signatures.map fun s => ⟨ownName signatures s, s⟩ :=
  slotsFrom_of_distinct _ (fun _ _ => List.not_mem_nil) h

theorem backsAnother_of_clash {signatures : List Signature} (hDistinct : DistinctOwnNames signatures)
    (h : Clash (assignSlots signatures)) : BacksAnother signatures := by
  rw [assignSlots_of_distinct hDistinct] at h
  obtain ⟨slot, hSlot, otherSlot, hOther, hName⟩ := h
  obtain ⟨s, hMem, rfl⟩ := List.mem_map.mp hSlot
  obtain ⟨other, hOtherMem, rfl⟩ := List.mem_map.mp hOther
  exact ⟨s, hMem, other, hOtherMem, hName.symm⟩

/-- A mock declares a name for a slot and for a member whenever one member backs another, and, as
long as no two members ask for the same slot, only then. -/
theorem clash_iff_backsAnother (signatures : List Signature) :
    (BacksAnother signatures → Clash (assignSlots signatures)) ∧
      (DistinctOwnNames signatures →
        Clash (assignSlots signatures) → BacksAnother signatures) :=
  ⟨clash_of_backsAnother, backsAnother_of_clash⟩

/-! ## A property with a stored one behind it -/

/-- `struct Meter` with `var count: Int { _count }` and `var _count: Int`. -/
def meter : Decl :=
  .type ⟨.structType, "Meter", [], [], none, [], [], none⟩
    [.variable ⟨"var", [⟨"count", some (.named "Int" []), none,
        some ⟨[], some (.block [.raw "_count"])⟩⟩], [], [], none⟩,
      .variable ⟨"var", [⟨"_count", some (.named "Int" []), none, none⟩], [], [], none⟩]

theorem clash_iff_backsAnother_meter :
    ∃ dep, Dependency.ofDecl none meter = .ok dep ∧
      DistinctOwnNames (dep.slots.map Slot.signature) ∧
      Clash (assignSlots (dep.slots.map Slot.signature)) ∧
      BacksAnother (dep.slots.map Slot.signature) := by
  obtain ⟨dep, hDep, hDistinct, hClash⟩ : ∃ dep, Dependency.ofDecl none meter = .ok dep ∧
      DistinctOwnNames (dep.slots.map Slot.signature) ∧
      Clash (assignSlots (dep.slots.map Slot.signature)) := by
    refine ⟨_, rfl, ?_, _, List.mem_cons_self, _, List.mem_cons_of_mem _ List.mem_cons_self, ?_⟩
    · unfold DistinctOwnNames
      decide
    · decide
  exact ⟨dep, hDep, hDistinct, hClash, (clash_iff_backsAnother _).right hDistinct hClash⟩

theorem slots_clash_meter :
    ∃ dep, Dependency.ofDecl none meter = .ok dep ∧
      ∃ slot ∈ dep.slots, ∃ other ∈ dep.slots,
        slot.property = Text.plainName other.signature.name :=
  ⟨_, rfl, _, List.mem_cons_self, _, List.mem_cons_of_mem _ List.mem_cons_self, by decide⟩

end SwiftDerive.Mock
