import Mathlib.Data.List.Forall2
import SwiftDerive.Proofs.Except
import SwiftDerive.Proofs.Lists
import SwiftDerive.TaggedUnion.Case

/-! # Valid cases

A case is valid when each of its associated values is a labelled value of a plain type whose label
is not the key of the discriminator. Each element of the `case` declarations gives a valid case or a
problem.
-/

namespace SwiftDerive.TaggedUnion

set_option autoImplicit false

theorem fieldOf_eq_ok_iff (p : CaseParameter) (f : PayloadField) :
    fieldOf p = .ok f ↔ isSimple p.type = true ∧ p.firstName = some f.label ∧ f.label ≠ "_" ∧
      Text.plainName f.label ≠ discriminatorKey ∧ f.type = p.type := by
  obtain ⟨label, type⟩ := f
  unfold fieldOf
  cases hSimple : isSimple p.type with
  | false => simp
  | true =>
    cases hName : p.firstName with
    | none => simp
    | some name =>
      simp only [Bool.not_true, Bool.false_eq_true, if_false, beq_iff_eq, Option.some.injEq]
      split
      · next hBlank =>
        constructor
        · intro h
          cases h
        · rintro ⟨_, rfl, hLabel, _⟩
          exact absurd hBlank hLabel
      · next hBlank =>
        split
        · next hReserved =>
          constructor
          · intro h
            cases h
          · rintro ⟨_, rfl, _, hFree, _⟩
            exact absurd hReserved hFree
        · next hReserved =>
          constructor
          · intro h
            cases h
            exact ⟨trivial, rfl, hBlank, hReserved, rfl⟩
          · rintro ⟨_, rfl, _, _, rfl⟩
            rfl

theorem fieldsOf_eq_ok_iff (ps : List CaseParameter) (fs : List PayloadField) :
    fieldsOf ps = .ok fs ↔ List.Forall₂ (fun p f => fieldOf p = .ok f) ps fs := by
  induction ps generalizing fs with
  | nil =>
    rw [fieldsOf, List.forall₂_nil_left_iff]
    exact ⟨fun h => (Except.ok.inj h).symm, fun h => congrArg Except.ok h.symm⟩
  | cons p ps ih =>
    rw [fieldsOf, List.forall₂_cons_left_iff]
    cases hField : fieldOf p with
    | error m => simp
    | ok field =>
      rw [map_eq_ok_iff]
      constructor
      · rintro ⟨rest, hRest, rfl⟩
        exact ⟨field, rest, rfl, (ih rest).mp hRest, rfl⟩
      · rintro ⟨_, rest, hHead, hRest, rfl⟩
        cases hHead
        exact ⟨rest, (ih rest).mpr hRest, rfl⟩

theorem specOf_eq_ok_iff (e : CaseElement) (c : CaseSpec) :
    specOf e = .ok c ↔ (e.parameters = none ∧ c = ⟨e.name, none⟩) ∨
      ∃ ps fs, e.parameters = some ps ∧ List.Forall₂ (fun p f => fieldOf p = .ok f) ps fs ∧
        c = ⟨e.name, some fs⟩ := by
  unfold specOf
  cases e.parameters with
  | none => simp [eq_comm]
  | some ps =>
    rw [map_eq_ok_iff]
    constructor
    · rintro ⟨fs, hFields, rfl⟩
      exact .inr ⟨ps, fs, rfl, (fieldsOf_eq_ok_iff ps fs).mp hFields, rfl⟩
    · rintro (⟨hNone, _⟩ | ⟨_, fs, hSome, hFields, rfl⟩)
      · cases hNone
      · cases hSome
        exact ⟨fs, (fieldsOf_eq_ok_iff ps fs).mpr hFields, rfl⟩

theorem mem_validCases_iff (members : List Decl) (c : CaseSpec) :
    c ∈ validCases members ↔ ∃ e ∈ elementsOf members, specOf e = .ok c := by
  unfold validCases outcomes
  rw [List.mem_filterMap]
  constructor
  · rintro ⟨outcome, hMem, hOk⟩
    obtain ⟨e, hElement, rfl⟩ := List.mem_map.mp hMem
    refine ⟨e, hElement, ?_⟩
    cases hSpec : specOf e with
    | error d =>
      rw [hSpec] at hOk
      cases hOk
    | ok spec =>
      rw [hSpec] at hOk
      cases hOk
      rfl
  · rintro ⟨e, hElement, hSpec⟩
    exact ⟨.ok c, List.mem_map.mpr ⟨e, hElement, hSpec⟩, rfl⟩

theorem plainName_label_ne {members : List Decl} {c : CaseSpec} (h : c ∈ validCases members)
    {f : PayloadField} (hField : f ∈ c.fields) : Text.plainName f.label ≠ discriminatorKey := by
  obtain ⟨e, _, hSpec⟩ := (mem_validCases_iff members c).mp h
  rcases (specOf_eq_ok_iff e c).mp hSpec with ⟨_, rfl⟩ | ⟨ps, fs, _, hFields, rfl⟩
  · cases hField
  · obtain ⟨p, _, hOk⟩ := exists_of_mem_right hFields hField
    exact ((fieldOf_eq_ok_iff p f).mp hOk).2.2.2.1

/-! ## An enum with a rejected case -/

def reportHeader : TypeHeader :=
  ⟨.enumType, "Report", [], [], none, [], [], none⟩

/-- `case signal(for: Device, level: Level), idle` and `case raw(type: Device)`, the labels `for`
and `type` in backticks. -/
def reportMembers : List Decl := [
  .enumCase ⟨[
    ⟨"signal", some [
      ⟨.named "Device" [], some "\x60for\x60", none, none, none⟩,
      ⟨.named "Level" [], some "level", none, none, none⟩], none, none⟩,
    ⟨"idle", none, none, none⟩], [], [], none⟩,
  .enumCase ⟨[
    ⟨"raw", some [⟨.named "Device" [], some "\x60type\x60", none, none, none⟩], none, none⟩],
    [], [], none⟩]

theorem validCases_reportMembers : validCases reportMembers = [
    ⟨"signal", some [⟨"\x60for\x60", .named "Device" []⟩, ⟨"level", .named "Level" []⟩]⟩,
    ⟨"idle", none⟩] := rfl

end SwiftDerive.TaggedUnion
