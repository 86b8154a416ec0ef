import SwiftDerive.Proofs.Mock.Forwarding
import SwiftDerive.Proofs.Mock.SlotSearch

/-! # Names inside a forwarding function

A parameter without a name gets one with its number, whatever the others and the slot are called.
The numbered names differ from each other and from the property of the slot, so that a clash always
comes from a name that was given. Names can be compared as they are written or without backticks.
-/

namespace SwiftDerive.Mock

set_option autoImplicit false

def inventedName (index : Nat) : String := "arg" ++ toString index

def givenName? (p : SignatureParameter) : Option String :=
  p.internalName.filter fun name => !name.isEmpty

def givenNames (ps : List SignatureParameter) : List String := ps.filterMap givenName?

def innerNames (f : FunctionDecl) : List String := f.parameters.filterMap Parameter.internalName

/-- A parameter without a name gets, by its number, the name of another. -/
def TakesGivenName (reading : String → String) (ps : List SignatureParameter) : Prop :=
  ∃ index p, ps[index]? = some p ∧ givenName? p = none ∧
    inventedName index ∈ (givenNames ps).map reading

theorem forwardedName_eq (index : Nat) (p : SignatureParameter) :
    forwardedName index p = (givenName? p).getD (inventedName index) := by
  unfold forwardedName givenName?
  cases p.internalName with
  | none => rfl
  | some name =>
    cases hEmpty : name.isEmpty <;> simp [Option.filter, hEmpty, inventedName]

/-! ## Invented names -/

theorem toList_inventedName (index : Nat) :
    (inventedName index).toList = "arg".toList ++ Nat.toDigits 10 index := by
  rw [inventedName, String.toList_append, Nat.toString_eq_repr, Nat.toList_repr]

theorem plainName_inventedName (index : Nat) :
    Text.plainName (inventedName index) = inventedName index := by
  have hFront : "arg".toList.dropWhile (· == '\x60') = "arg".toList := by decide
  apply String.toList_injective
  rw [toList_inventedName, inventedName, Nat.toString_eq_ofList_toDigits,
    toList_plainName_append _ Nat.toDigits_ne_nil fun _ => ne_backtick_of_mem_toDigits, hFront]

theorem inventedName_injective : Function.Injective inventedName := by
  intro i j hSame
  have hTexts := congrArg String.toList hSame
  rw [toList_inventedName, toList_inventedName, List.append_cancel_left_eq] at hTexts
  have hNumbers := congrArg (Nat.ofDigitChars 10 · 0) hTexts
  simpa [Nat.ofDigitChars_ten_toDigits] using hNumbers

/-! ## All names of a function -/

theorem innerNames_forwardingFunction (dep : Dependency) (slot : Slot) {s : FunctionSignature}
    (hNames : ∀ p ∈ s.parameters, p.internalName ≠ some "_") :
    innerNames (dep.forwardingFunction slot s) = mapIndexed forwardedName s.parameters := by
  rw [innerNames, Dependency.forwardingFunction, mapIndexed, mapIndexed, List.filterMap_map,
    ← List.filterMap_eq_map]
  apply List.filterMap_congr
  rintro ⟨p, index⟩ hMem
  exact internalName_forwardedParameter (hNames p (List.fst_mem_of_mem_zipIdx hMem)) index

section Names

variable {reading : String → String} {ps : List SignatureParameter}

theorem mem_givenNames {p : SignatureParameter} (hMem : p ∈ ps) {name : String}
    (hName : givenName? p = some name) :
    reading name ∈ (givenNames ps).map reading :=
  List.mem_map_of_mem (List.mem_filterMap.mpr ⟨p, hMem, hName⟩)

variable (hReading : ∀ index, reading (inventedName index) = inventedName index)

include hReading

theorem not_takesGivenName_of_nodup
    (h : ((mapIndexed forwardedName ps).map reading).Nodup) : ¬ TakesGivenName reading ps := by
  rintro ⟨index, p, hAt, hNone, hTaken⟩
  obtain ⟨name, hGiven, hSame⟩ := List.mem_map.mp hTaken
  obtain ⟨q, hMem, hName⟩ := List.mem_filterMap.mp hGiven
  obtain ⟨j, hOther⟩ := List.mem_iff_getElem?.mp hMem
  rw [mapIndexed, List.map_map] at h
  -- The two parameters have the same name, so that they are one; but one of them has no name.
  have hParameters : (p, index) = (q, j) := by
    apply List.inj_on_of_nodup_map h (List.mem_zipIdx_iff_getElem?.mpr hAt)
      (List.mem_zipIdx_iff_getElem?.mpr hOther)
    simp only [Function.comp_apply, forwardedName_eq, hNone, hName, Option.getD_none,
      Option.getD_some, hReading, hSame]
  obtain ⟨rfl, _⟩ := Prod.mk.inj hParameters
  rw [hNone] at hName
  cases hName

theorem nodup_of_not_takesGivenName (hDistinct : ((givenNames ps).map reading).Nodup)
    (h : ¬ TakesGivenName reading ps) : ((mapIndexed forwardedName ps).map reading).Nodup := by
  have hGiven : ps.zipIdx.Pairwise fun a b => ∀ name, givenName? a.1 = some name →
      ∀ name', givenName? b.1 = some name' → reading name ≠ reading name' := by
    rw [givenNames, List.Nodup, List.pairwise_map, List.pairwise_filterMap,
      ← List.zipIdx_map_fst 0 ps, List.pairwise_map] at hDistinct
    exact hDistinct
  have hFree : ∀ a ∈ ps.zipIdx, givenName? a.1 = none →
      ∀ b ∈ ps.zipIdx, ∀ name, givenName? b.1 = some name →
        reading name ≠ inventedName a.2 := by
    intro a hA hNone b hB name hName hSame
    refine h ⟨a.2, a.1, List.mem_zipIdx_iff_getElem?.mp hA, hNone, ?_⟩
    exact hSame ▸ mem_givenNames (List.fst_mem_of_mem_zipIdx hB) hName
  rw [mapIndexed, List.map_map, List.Nodup, List.pairwise_map]
  refine (hGiven.and (pairwise_zipIdx ps 0)).imp_of_mem ?_
  rintro a b hA hB ⟨hNamed, hLess⟩
  simp only [Function.comp_apply, forwardedName_eq]
  cases hFirst : givenName? a.1 with
  | none =>
    cases hSecond : givenName? b.1 with
    | none =>
      rw [Option.getD_none, Option.getD_none, hReading, hReading]
      exact fun hSame => absurd (inventedName_injective hSame) (Nat.ne_of_lt hLess)
    | some name =>
      rw [Option.getD_none, Option.getD_some, hReading]
      exact (hFree a hA hFirst b hB name hSecond).symm
  | some name =>
    cases hSecond : givenName? b.1 with
    | none =>
      rw [Option.getD_some, Option.getD_none, hReading]
      exact hFree b hB hSecond a hA name hFirst
    | some name' => exact hNamed name hFirst name' hSecond

theorem property_mem_forwardedNames_iff (slot : Slot) :
    slot.property ∈ (mapIndexed forwardedName ps).map reading ↔
      slot.property ∈ (givenNames ps).map reading := by
  rw [mapIndexed, List.map_map, List.mem_map]
  constructor
  · rintro ⟨⟨p, index⟩, hMem, hSame⟩
    simp only [Function.comp_apply, forwardedName_eq] at hSame
    cases hName : givenName? p with
    | none =>
      rw [hName, Option.getD_none, hReading] at hSame
      refine absurd hSame (numberedName_ne ?_ index)
      simp [Slot.property, String.toList_append]
    | some name =>
      rw [hName, Option.getD_some] at hSame
      exact hSame ▸ mem_givenNames (List.fst_mem_of_mem_zipIdx hMem) hName
  · intro h
    obtain ⟨name, hGiven, hSame⟩ := List.mem_map.mp h
    obtain ⟨p, hMem, hName⟩ := List.mem_filterMap.mp hGiven
    obtain ⟨index, hAt⟩ := List.mem_iff_getElem?.mp hMem
    refine ⟨(p, index), List.mem_zipIdx_iff_getElem?.mpr hAt, ?_⟩
    rw [Function.comp_apply, forwardedName_eq, hName, Option.getD_some, hSame]

end Names

/-- Where the given names of the parameters are different, the function binds different names exactly
if no parameter without a name gets the name of another. The property of the slot is hidden exactly
by a parameter that was given its name. -/
theorem forwardingFunction_names_distinct_iff {reading : String → String}
    (hReading : ∀ index, reading (inventedName index) = inventedName index) (dep : Dependency)
    (slot : Slot) {s : FunctionSignature} (hNames : ∀ p ∈ s.parameters, p.internalName ≠ some "_")
    (hDistinct : ((givenNames s.parameters).map reading).Nodup) :
    (innerNames (dep.forwardingFunction slot s)).length = s.parameters.length ∧
      (((innerNames (dep.forwardingFunction slot s)).map reading).Nodup ↔
        ¬ TakesGivenName reading s.parameters) ∧
      ((forwardingCall slot s).property ∈
          (innerNames (dep.forwardingFunction slot s)).map reading ↔
        (forwardingCall slot s).property ∈ (givenNames s.parameters).map reading) := by
  rw [innerNames_forwardingFunction dep slot hNames]
  refine ⟨?_, ?_, property_mem_forwardedNames_iff hReading slot⟩
  · rw [mapIndexed, List.length_map, List.length_zipIdx]
  · exact ⟨not_takesGivenName_of_nodup hReading, nodup_of_not_takesGivenName hReading hDistinct⟩

theorem forwardingFunction_names_distinct_iff_merge :
    (∀ p ∈ (Signature.ofFunction merge).parameters, p.internalName ≠ some "_") ∧
      ((givenNames (Signature.ofFunction merge).parameters).map Text.plainName).Nodup ∧
      ((innerNames (storeDependency.forwardingFunction mergeSlot
        (Signature.ofFunction merge))).map Text.plainName).Nodup ∧
      "_merge" ∉ (innerNames (storeDependency.forwardingFunction mergeSlot
        (Signature.ofFunction merge))).map Text.plainName := by
  have hNames : ∀ p ∈ (Signature.ofFunction merge).parameters, p.internalName ≠ some "_" := by
    decide
  have hDistinct :
      ((givenNames (Signature.ofFunction merge).parameters).map Text.plainName).Nodup := by
    decide
  obtain ⟨_, hNodup, hProperty⟩ := forwardingFunction_names_distinct_iff plainName_inventedName
    storeDependency mergeSlot hNames hDistinct
  refine ⟨hNames, hDistinct, hNodup.mpr ?_, ?_⟩
  · have hGiven : (givenNames (Signature.ofFunction merge).parameters).map Text.plainName =
        ["items"] := by decide
    rintro ⟨index, _, _, _, hTaken⟩
    rw [hGiven] at hTaken
    exact numberedName_ne (by decide) index (List.mem_singleton.mp hTaken)
  · exact fun hMem => absurd (hProperty.mp hMem) (by decide)

/-! ## A function that is given a numbered name and that of its slot -/

/-- `func add(_: Int, _ arg0: Int, to _add: Int)` -/
def add : FunctionDecl :=
  ⟨"add", [⟨"_", .named "Int" [], none, false, none, []⟩,
    ⟨"_", .named "Int" [], some "arg0", false, none, []⟩,
    ⟨"to", .named "Int" [], some "_add", false, none, []⟩], .empty, none, [], none, none, [], [],
    none⟩

def tally : Decl :=
  .type ⟨.structType, "Tally", [], [], none, [], [], none⟩ [.function add]

theorem names_clash_add :
    ∃ dep slot, Dependency.ofDecl none tally = .ok dep ∧ slot ∈ dep.slots ∧
      slot.signature = .function (Signature.ofFunction add) ∧
      (givenNames (Signature.ofFunction add).parameters).Nodup ∧
      innerNames (dep.forwardingFunction slot (Signature.ofFunction add)) =
        ["arg0", "arg0", "_add"] ∧
      slot.property = "_add" :=
  ⟨_, _, rfl, List.mem_singleton.mpr rfl, rfl, by decide, by decide, by decide⟩

end SwiftDerive.Mock
