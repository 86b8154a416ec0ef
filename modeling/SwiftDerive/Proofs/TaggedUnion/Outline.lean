import Mathlib.Data.List.Sort
import Mathlib.Data.String.Basic
import SwiftDerive.Proofs.Lists
import SwiftDerive.Proofs.TaggedUnion.Cases
import SwiftDerive.Proofs.TaggedUnion.Spelling

/-! # The generated members fit together

The names and keys that the generated enums declare are those that the branches of the generated
function and initializer use, and both have one branch for each valid case.
-/

namespace SwiftDerive.TaggedUnion

set_option autoImplicit false

/-! ## Descending names -/

theorem descending_perm (names : List String) : (descending names).Perm names :=
  List.mergeSort_perm names _

theorem descending_pairwise (names : List String) : (descending names).Pairwise (· ≥ ·) :=
  List.pairwise_mergeSort' (· ≥ ·) names

theorem descending_pairwise_of_nodup {names : List String} (h : names.Nodup) :
    (descending names).Pairwise (· > ·) := by
  have hNodup : (descending names).Pairwise (· ≠ ·) := (descending_perm names).nodup_iff.mpr h
  apply (descending_pairwise names).imp₂ _ hNodup
  intro a b hGe hNe
  exact lt_of_le_of_ne hGe hNe.symm

theorem mem_codingKeys_iff (cases : List CaseSpec) (key : String) :
    key ∈ codingKeys cases ↔
      key = discriminatorKey ∨ ∃ c ∈ cases, key ∈ c.fields.map PayloadField.label := by
  rw [codingKeys, (descending_perm _).mem_iff, List.mem_eraseDups, List.mem_cons, List.mem_flatMap]

/-! ## Names and keys in the branches -/

namespace Outline

def usedKeys (o : Outline) : List String :=
  o.tagRead.key :: (o.writers.flatMap fun w => w.writes.map KeyedWrite.key) ++
    o.readers.flatMap fun r => r.reads.map KeyedRead.key

/-- The name of the case is written first. The values behind it are those that the branch binds, and
the other branch reads them under the same keys, in the same order, and passes them under them. -/
def Paired (w : EncodeBranch) (r : DecodeBranch) : Prop :=
  ∃ rest, w.writes = ⟨.caseName w.caseName, discriminatorKey⟩ :: rest ∧
    rest.map KeyedWrite.value = (w.bound.getD []).map Operand.bound ∧
    rest.map KeyedWrite.key = r.reads.map KeyedRead.key ∧
    rest.map KeyedWrite.key = (r.arguments.getD []).map Prod.fst ∧
    r.reads.map KeyedRead.name = (r.arguments.getD []).map Prod.snd

structure Consistent (o : Outline) (cases : List CaseSpec) : Prop where
  names_perm : o.caseNames.Perm (cases.map CaseSpec.name)
  names_sorted : o.caseNames.Pairwise (· ≥ ·)
  writers_cases : o.writers.map EncodeBranch.caseName = cases.map CaseSpec.name
  readers_cases : o.readers.map DecodeBranch.caseName = cases.map CaseSpec.name
  paired : ∀ w r, (w, r) ∈ o.writers.zip o.readers → Paired w r
  keys_used : ∀ key, key ∈ o.keys ↔ key ∈ o.usedKeys
  keys_sorted : o.keys.Pairwise (· > ·)
  tag_declared : discriminatorKey ∈ o.keys

end Outline

theorem writes_keys (c : CaseSpec) :
    (encodeBranch c).writes.map KeyedWrite.key =
      discriminatorKey :: c.fields.map PayloadField.label := by
  simp [encodeBranch]

theorem reads_keys (c : CaseSpec) :
    (decodeBranch c).reads.map KeyedRead.key = c.fields.map PayloadField.label := by
  simp [decodeBranch]

theorem paired_branches (c : CaseSpec) : Outline.Paired (encodeBranch c) (decodeBranch c) := by
  refine ⟨c.fields.map fun f => ⟨.bound f.label, f.label⟩, rfl, ?_⟩
  obtain ⟨name, payload⟩ := c
  cases payload with
  | none => exact ⟨rfl, rfl, rfl, rfl⟩
  | some fields => simp [encodeBranch, decodeBranch, CaseSpec.fields]

theorem mem_usedKeys_outline_iff (cases : List CaseSpec) (key : String) :
    key ∈ (outline cases).usedKeys ↔
      key = discriminatorKey ∨ ∃ c ∈ cases, key ∈ c.fields.map PayloadField.label := by
  simp only [Outline.usedKeys, outline, List.flatMap_map, writes_keys, reads_keys, List.cons_append,
    List.mem_cons, List.mem_append, List.mem_flatMap]
  constructor
  · rintro (rfl | ⟨c, hCase, rfl | hKey⟩ | ⟨c, hCase, hKey⟩)
    · exact .inl rfl
    · exact .inl rfl
    · exact .inr ⟨c, hCase, hKey⟩
    · exact .inr ⟨c, hCase, hKey⟩
  · rintro (rfl | ⟨c, hCase, hKey⟩)
    · exact .inl rfl
    · exact .inr (.inr ⟨c, hCase, hKey⟩)

theorem outline_consistent (cases : List CaseSpec) : (outline cases).Consistent cases where
  names_perm := descending_perm _
  names_sorted := descending_pairwise _
  writers_cases := List.map_map
  readers_cases := List.map_map
  paired w r h := by
    rw [outline, List.zip_map'] at h
    obtain ⟨c, _, hBranches⟩ := List.mem_map.mp h
    cases hBranches
    exact paired_branches c
  keys_used key := (mem_codingKeys_iff cases key).trans (mem_usedKeys_outline_iff cases key).symm
  keys_sorted := descending_pairwise_of_nodup (nodup_eraseDups _)
  tag_declared := (mem_codingKeys_iff cases discriminatorKey).mpr (.inl rfl)

/-- The members are written from the outline, and spell it when the names are plain. -/
def WrittenFrom (o : Outline) (cases : List CaseSpec) (members : List Decl) : Prop :=
  (∃ isPublic, members = o.members isPublic) ∧
    ((∀ c ∈ cases, c.Plain) → Outline.read? members = some o)

theorem generate_of_enum (header : TypeHeader) (members : List Decl)
    (hEnum : header.kind = .enumType) :
    ∃ generated, (generate (.type header members)).outcome = .ok generated ∧
      WrittenFrom (outline (validCases members)) (validCases members) generated := by
  refine ⟨(outline (validCases members)).members (Decl.type header members).isPublic, ?_,
    ⟨_, rfl⟩, fun hPlain => read?_members hPlain _⟩
  rw [generate, if_pos hEnum]

/-- What is generated for an enum is consistent, and a case that was rejected has no part in it
unless a valid case has its name. -/
theorem generate_consistent (header : TypeHeader) (members : List Decl)
    (hEnum : header.kind = .enumType) :
    (∃ generated, (generate (.type header members)).outcome = .ok generated ∧
        WrittenFrom (outline (validCases members)) (validCases members) generated) ∧
      (outline (validCases members)).Consistent (validCases members) ∧
      ∀ e ∈ elementsOf members, ∀ problem, specOf e = .error problem →
        (∀ c ∈ validCases members, c.name ≠ e.name) →
        e.name ∉ (outline (validCases members)).caseNames ∧
          e.name ∉ (outline (validCases members)).writers.map EncodeBranch.caseName ∧
          e.name ∉ (outline (validCases members)).readers.map DecodeBranch.caseName := by
  have hConsistent := outline_consistent (validCases members)
  refine ⟨generate_of_enum header members hEnum, hConsistent, ?_⟩
  intro e _ _ _ hName
  have hAbsent : e.name ∉ (validCases members).map CaseSpec.name := by
    intro hMem
    obtain ⟨c, hCase, hEq⟩ := List.mem_map.mp hMem
    exact hName c hCase hEq
  refine ⟨?_, ?_, ?_⟩
  · rwa [hConsistent.names_perm.mem_iff]
  · rwa [hConsistent.writers_cases]
  · rwa [hConsistent.readers_cases]

theorem reportCases_plain : ∀ c ∈ validCases reportMembers, c.Plain := by
  rw [validCases_reportMembers]
  intro c hCase
  rcases List.mem_pair.mp hCase with rfl | rfl
  · refine ⟨by decide, ?_, ?_⟩
    · intro f hField
      rcases List.mem_pair.mp hField with rfl | rfl <;> decide
    · intro f hField
      rcases List.mem_pair.mp hField with rfl | rfl <;> decide
  · refine ⟨by decide, ?_, ?_⟩
    · intro f hField
      cases hField
    · intro f hField
      cases hField

theorem generate_consistent_report :
    (∃ generated, (generate (.type reportHeader reportMembers)).outcome = .ok generated ∧
        Outline.read? generated = some (outline (validCases reportMembers))) ∧
      (outline (validCases reportMembers)).Consistent (validCases reportMembers) ∧
      "raw" ∉ (outline (validCases reportMembers)).caseNames := by
  obtain ⟨⟨generated, hGenerated, _, hSpelled⟩, hConsistent, hRejected⟩ :=
    generate_consistent reportHeader reportMembers rfl
  refine ⟨⟨generated, hGenerated, hSpelled reportCases_plain⟩, hConsistent, ?_⟩
  have hName : ∀ c ∈ validCases reportMembers, c.name ≠ "raw" := by
    rw [validCases_reportMembers]
    simp
  exact (hRejected
    ⟨"raw", some [⟨.named "Device" [], some "\x60type\x60", none, none, none⟩], none, none⟩
    (by simp [elementsOf, reportMembers]) (Message.reservedCaseLabel.at none) rfl hName).1

end SwiftDerive.TaggedUnion
