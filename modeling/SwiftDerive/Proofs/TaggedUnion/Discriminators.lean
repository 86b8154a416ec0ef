import Mathlib.Data.List.Dedup
import SwiftDerive.Proofs.TaggedUnion.Agreement

/-! # Discriminators

The generated enum of the case names has a name for each valid case, however often it comes, while the
codec has one entry for each name on the wire. They fit as long as the valid cases differ in their
names on the wire. Overloaded cases do not, and of those the codec keeps the last.
-/

namespace SwiftDerive.TaggedUnion

set_option autoImplicit false

/-- The names of the cases on the wire, as often as they come. -/
def wireNames (cases : List CaseSpec) : List String :=
  cases.map fun c => Text.plainName c.name

def writtenLabels (cases : List CaseSpec) : List String :=
  cases.flatMap fun c => c.fields.map PayloadField.label

/-- No label is written in two ways, with and without backticks. -/
def SpelledAlike (cases : List CaseSpec) : Prop :=
  ∀ l ∈ writtenLabels cases, ∀ m ∈ writtenLabels cases, Text.plainName l = Text.plainName m → l = m

instance (cases : List CaseSpec) : Decidable (SpelledAlike cases) :=
  inferInstanceAs (Decidable (∀ l ∈ writtenLabels cases, ∀ m ∈ writtenLabels cases,
    Text.plainName l = Text.plainName m → l = m))

/-! ## The keys of merged entries -/

theorem keysOf_foldl_putEntry {α : Type} (entries merged : List (String × α)) :
    keysOf (entries.foldl (fun merged entry => putEntry entry.1 entry.2 merged) merged) =
      keysOf merged ++
        ((keysOf entries).filter fun key => !(keysOf merged).contains key).eraseDups := by
  induction entries generalizing merged with
  | nil => simp
  | cons entry entries ih =>
    rw [List.foldl_cons, ih, keysOf_putEntry, keysOf_cons]
    by_cases hMem : entry.1 ∈ keysOf merged
    · simp [hMem]
    · simp [hMem, List.eraseDups_cons, List.filter_filter, Bool.and_comm, beq_eq_decide]

theorem keysOf_mergeEntries {α : Type} (entries : List (String × α)) :
    keysOf (mergeEntries entries) = (keysOf entries).eraseDups := by
  have hFrom := keysOf_foldl_putEntry entries []
  simpa [mergeEntries] using hFrom

theorem length_eraseDups_eq_iff (names : List String) :
    names.eraseDups.length = names.length ↔ names.Nodup := by
  have hPerm : names.eraseDups.Perm names.dedup := by
    apply (List.perm_ext_iff_of_nodup (nodup_eraseDups names) names.nodup_dedup).mpr
    intro name
    rw [List.mem_eraseDups, List.mem_dedup]
  rw [hPerm.length_eq, ← List.dedup_eq_self]
  constructor
  · exact names.dedup_sublist.eq_of_length
  · exact congrArg List.length

/-! ## The codec -/

namespace Codec

theorem discriminators_ofCases (cases : List CaseSpec) :
    (ofCases cases).discriminators = (wireNames cases).eraseDups := by
  have hKeys := keysOf_mergeEntries (cases.map fun c => (Text.plainName c.name, c))
  rw [keysOf, keysOf, List.map_map] at hKeys
  exact hKeys

theorem lookup_ofCases_eq_find? (cases : List CaseSpec) (name : String) :
    (ofCases cases).cases.lookup name =
      cases.reverse.find? fun c => Text.plainName c.name = name := by
  rw [ofCases, lookup_mergeEntries, ← List.map_reverse]
  exact lookup_map_self (fun c : CaseSpec => Text.plainName c.name) cases.reverse name

/-- A value for a case: under its name on the wire, with a value for each of its labels and no
other. -/
structure ValueOf (c : CaseSpec) (v : EnumValue) : Prop where
  caseName : v.caseName = Text.plainName c.name
  distinct : DistinctKeys v.payload
  labelled : ∀ key, key ∈ keysOf v.payload ↔ key ∈ labels c

theorem fits_of_lookup {codec : Codec} {c : CaseSpec}
    (hFound : codec.cases.lookup (Text.plainName c.name) = some c) {v : EnumValue}
    (hValue : ValueOf c v) : codec.Fits v where
  known := by
    rw [hValue.caseName]
    exact (mem_discriminators_iff codec _).mpr ⟨c, hFound⟩
  distinct := hValue.distinct
  labelled c' hCase := by
    rw [hValue.caseName, hFound] at hCase
    cases hCase
    exact hValue.labelled

end Codec

/-! ## The generated enums -/

theorem nodup_caseNames_iff (cases : List CaseSpec) :
    ((outline cases).caseNames.map Text.plainName).Nodup ↔ (wireNames cases).Nodup := by
  rw [((outline_consistent cases).names_perm.map Text.plainName).nodup_iff, List.map_map]
  rfl

/-- The keys clash only where a label is written in two ways, since no label is the key of the
discriminator. -/
theorem nodup_keys_iff {cases : List CaseSpec}
    (hFree : ∀ l ∈ writtenLabels cases, Text.plainName l ≠ discriminatorKey) :
    ((outline cases).keys.map Text.plainName).Nodup ↔ SpelledAlike cases := by
  have hKeys : (outline cases).keys.Nodup :=
    (outline_consistent cases).keys_sorted.imp fun hGreater => ne_of_gt hGreater
  have hMem (key : String) :
      key ∈ (outline cases).keys ↔ key = discriminatorKey ∨ key ∈ writtenLabels cases := by
    rw [outline, mem_codingKeys_iff, writtenLabels, List.mem_flatMap]
  have hTag : Text.plainName discriminatorKey = discriminatorKey := by decide
  rw [List.nodup_map_iff_inj_on hKeys]
  constructor
  · intro hInjective l hL m hM
    exact hInjective l ((hMem l).mpr (.inr hL)) m ((hMem m).mpr (.inr hM))
  · intro hAlike k hK l hL hSame
    rcases (hMem k).mp hK with rfl | hK
    · rcases (hMem l).mp hL with rfl | hL
      · rfl
      · exact absurd (hSame.symm.trans hTag) (hFree l hL)
    · rcases (hMem l).mp hL with rfl | hL
      · exact absurd (hSame.trans hTag) (hFree k hK)
      · exact hAlike k hK l hL hSame

example : ¬ ((outline [⟨"a", some [⟨"x", .named "Int" []⟩]⟩,
    ⟨"b", some [⟨"\x60x\x60", .named "Int" []⟩]⟩]).keys.map Text.plainName).Nodup := by
  rw [nodup_keys_iff (by decide)]
  decide

/-! ## What becomes of the cases of an enum -/

structure Discriminated (codec : Codec) (cases : List CaseSpec) : Prop where
  names : ((outline cases).caseNames.map Text.plainName).Nodup ↔ (wireNames cases).Nodup
  keys : ((outline cases).keys.map Text.plainName).Nodup ↔ SpelledAlike cases
  discriminators : codec.discriminators = (wireNames cases).eraseDups
  complete : codec.discriminators.length = cases.length ↔ (wireNames cases).Nodup
  found : ∀ name, codec.cases.lookup name =
    cases.reverse.find? fun c => Text.plainName c.name = name
  coded : (wireNames cases).Nodup → ∀ c ∈ cases, ∀ v, Codec.ValueOf c v →
    ∃ entries w, codec.encode v = .ok entries ∧ codec.decode entries = .ok w ∧ Codec.Agree w v

theorem writtenLabels_validCases {members : List Decl} {l : String}
    (hLabel : l ∈ writtenLabels (validCases members)) : Text.plainName l ≠ discriminatorKey := by
  obtain ⟨c, hCase, hLabel⟩ := List.mem_flatMap.mp hLabel
  obtain ⟨f, hField, rfl⟩ := List.mem_map.mp hLabel
  exact plainName_label_ne hCase hField

theorem discriminated_validCases (members : List Decl) :
    Discriminated (Codec.ofCases (validCases members)) (validCases members) where
  names := nodup_caseNames_iff _
  keys := nodup_keys_iff fun _ hLabel => writtenLabels_validCases hLabel
  discriminators := Codec.discriminators_ofCases _
  complete := by
    have hLength : (wireNames (validCases members)).length = (validCases members).length :=
      List.length_map ..
    rw [Codec.discriminators_ofCases, ← hLength]
    exact length_eraseDups_eq_iff _
  found := Codec.lookup_ofCases_eq_find? _
  coded := by
    intro hDistinct c hCase v hValue
    have hForm := Codec.wellFormed_ofCases_validCases members
    have hFound : (Codec.ofCases (validCases members)).cases.lookup (Text.plainName c.name) =
        some c := (lookup_cases_ofCases hDistinct _).trans (find_of_mem hDistinct hCase)
    have hFits := Codec.fits_of_lookup hFound hValue
    obtain ⟨entries, hEncode⟩ := Codec.exists_encode hFits
    obtain ⟨w, hDecode, hAgree⟩ := Codec.decode_encode hForm hFits hEncode
    exact ⟨entries, w, hEncode, hDecode, hAgree⟩

/-- The valid cases of an enum keep their own discriminators exactly if no two of them have the same
name on the wire, and the keys are distinct exactly if no label is written in two ways. -/
theorem generate_discriminates (header : TypeHeader) (members : List Decl)
    (hEnum : header.kind = .enumType) :
    ∃ codec generated, Codec.ofDecl (.type header members) = .ok codec ∧
      (generate (.type header members)).outcome = .ok generated ∧
      WrittenFrom (outline (validCases members)) (validCases members) generated ∧
      Discriminated codec (validCases members) := by
  obtain ⟨generated, hGenerated, hWritten⟩ := generate_of_enum header members hEnum
  refine ⟨Codec.ofCases (validCases members), generated, ?_, hGenerated, hWritten,
    discriminated_validCases members⟩
  rw [Codec.ofDecl, if_pos hEnum]

theorem generate_discriminates_report :
    reportHeader.kind = .enumType ∧ ∃ codec,
      Codec.ofDecl (.type reportHeader reportMembers) = .ok codec ∧
      codec.discriminators = ["signal", "idle"] ∧
      ∃ entries w, codec.encode ⟨"idle", []⟩ = .ok entries ∧ codec.decode entries = .ok w ∧
        Codec.Agree w ⟨"idle", []⟩ := by
  obtain ⟨codec, _, hCodec, _, _, hCases⟩ := generate_discriminates reportHeader reportMembers rfl
  rw [validCases_reportMembers] at hCases
  refine ⟨rfl, codec, hCodec, hCases.discriminators.trans (by decide), ?_⟩
  refine hCases.coded (by decide) ⟨"idle", none⟩ (by simp) ⟨"idle", []⟩ ⟨rfl, distinctKeys_nil, ?_⟩
  simp [Codec.labels, CaseSpec.fields]

/-! ## Overloaded cases -/

/-- `case moved(x: Int), moved(y: Int)` -/
def movedMembers : List Decl := [
  .enumCase ⟨[
    ⟨"moved", some [⟨.named "Int" [], some "x", none, none, none⟩], none, none⟩,
    ⟨"moved", some [⟨.named "Int" [], some "y", none, none, none⟩], none, none⟩], [], [], none⟩]

theorem moved_shares_discriminator :
    ∃ codec, Codec.ofDecl (.type reportHeader movedMembers) = .ok codec ∧
      (generate (.type reportHeader movedMembers)).diagnostics = [] ∧
      (validCases movedMembers).length = 2 ∧
      codec.discriminators = ["moved"] ∧
      ¬ ((outline (validCases movedMembers)).caseNames.map Text.plainName).Nodup ∧
      codec.encode ⟨"moved", [("x", .int 1)]⟩ = .error (.keyNotFound "y" (some "moved")) := by
  refine ⟨_, rfl, rfl, rfl, ?_, ?_, rfl⟩
  · decide
  · rw [nodup_caseNames_iff]
    decide

end SwiftDerive.TaggedUnion
