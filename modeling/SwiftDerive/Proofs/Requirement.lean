import SwiftDerive.Proofs.Lists
import SwiftDerive.Proofs.Signature
import SwiftDerive.Requirement

/-! # Requirements are analyzed to what they were made from

A requirement is made from the signature of a member, and has a signature itself. This is the normal
form of the first one, which leaves out what means nothing on a requirement; a requirement made from
the normal form is the same again.
-/

namespace SwiftDerive

set_option autoImplicit false

theorem internalName_ne_underscore (p : Parameter) : p.internalName ≠ some "_" := by
  rw [Parameter.internalName]
  split
  · exact (Option.some_ne_none "_").symm
  · rename_i hName
    intro hSame
    exact hName (Option.some.inj hSame)

/-- A parameter that hides its label behind `_` has the label as its name. -/
def SignatureParameter.named (p : SignatureParameter) : SignatureParameter :=
  { p with internalName := p.internalName.or p.label }

/-- The signature as it is read off its requirement. -/
def Signature.normalForm (excluded : List String) : Signature → Signature
  | .function s => .function { s with
      parameters := s.parameters.map SignatureParameter.named
      throwsKeyword := if s.isThrowing then some "throws" else s.throwsKeyword
      modifiers := Requirement.modifiers excluded s.modifiers }
  | .property s => .property { s with
      attributes := s.attributes.filter Requirement.keepsAttribute
      modifiers := Requirement.modifiers excluded s.modifiers }

/-- The parameters of a function have names, `_` being one. -/
def Decl.NamesParameters (d : Decl) : Prop :=
  ∀ f, d = .function f → ∀ p ∈ f.parameters, p.firstName ≠ ""

namespace Requirement

/-! ## Modifiers -/

theorem restrictsSetter_of_detail_none (name : String) :
    Signature.restrictsSetter ⟨name, none⟩ = false := by
  simp [Signature.restrictsSetter]

theorem restrictsSetter_requirement (excluded : List String) (ms : List Modifier) :
    ∀ m ∈ Requirement.modifiers excluded ms, Signature.restrictsSetter m = false := by
  intro m hMem
  obtain ⟨name, _, rfl⟩ := List.mem_map.mp hMem
  exact restrictsSetter_of_detail_none name

def modifierNames (excluded : List String) (ms : List Modifier) : List String :=
  ((ms.filter (keepsModifier excluded)).map modifierName).eraseDups

theorem keeps_modifierName {excluded : List String} {ms : List Modifier} {name : String}
    (h : name ∈ modifierNames excluded ms) :
    modifierName ⟨name, none⟩ = name ∧ keepsModifier excluded ⟨name, none⟩ = true := by
  obtain ⟨m, hKept, rfl⟩ := List.mem_map.mp (List.mem_eraseDups.mp h)
  have hKeeps := (List.mem_filter.mp hKept).2
  -- `class` is not the name of a modifier that is kept, since `static` stands for it.
  have hName : modifierName ⟨modifierName m, none⟩ = modifierName m := by
    unfold modifierName
    split <;> simp_all
  rw [keepsModifier, Bool.and_eq_true, Bool.and_eq_true] at hKeeps
  refine ⟨hName, ?_⟩
  rw [keepsModifier, hName, hKeeps.1.2, hKeeps.2]
  rfl

theorem modifiers_modifiers (excluded : List String) (ms : List Modifier) :
    modifiers excluded (modifiers excluded ms) = modifiers excluded ms := by
  have hKept : (modifiers excluded ms).filter (keepsModifier excluded) =
      modifiers excluded ms := by
    refine List.filter_eq_self.mpr fun m hMem => ?_
    obtain ⟨name, hName, rfl⟩ := List.mem_map.mp hMem
    exact (keeps_modifierName hName).2
  have hNames : (modifiers excluded ms).map modifierName = modifierNames excluded ms := by
    calc
      (modifiers excluded ms).map modifierName =
          (modifierNames excluded ms).map fun name => modifierName ⟨name, none⟩ := List.map_map
      _ = (modifierNames excluded ms).map id :=
          List.map_congr_left fun _ hName => (keeps_modifierName hName).1
      _ = modifierNames excluded ms := List.map_id _
  have hOnce : modifierNames excluded (modifiers excluded ms) = modifierNames excluded ms := by
    rw [modifierNames, hKept, hNames]
    exact eraseDups_of_nodup (nodup_eraseDups _)
  exact congrArg (List.map fun name => (⟨name, none⟩ : Modifier)) hOnce

/-! ## Functions -/

section Parameter

variable {p : SignatureParameter}
  (hLabel : ∀ label, p.label = some label → label ≠ "" ∧ label ≠ "_")

include hLabel

theorem label_parameter : (parameter p).label = p.label := by
  cases hSome : p.label with
  | none => simp [Parameter.label, parameter, declaredLabel, hSome]
  | some label =>
    obtain ⟨hNonempty, hLabelled⟩ := hLabel label hSome
    simp [Parameter.label, parameter, declaredLabel, hSome, hNonempty, hLabelled]

theorem internalName_parameter (hName : p.internalName ≠ some "_") :
    (parameter p).internalName = p.internalName.or p.label := by
  cases hSome : p.label with
  | none =>
    cases hInternal : p.internalName with
    | none => simp [Parameter.internalName, parameter, declaredLabel, secondName, hSome, hInternal]
    | some name =>
      have hNamed : name ≠ "_" := fun hSame => hName (hInternal.trans (congrArg some hSame))
      simp [Parameter.internalName, parameter, secondName, hSome, hInternal, hNamed]
  | some label =>
    obtain ⟨hNonempty, hLabelled⟩ := hLabel label hSome
    have hDeclared : declaredLabel (some label) = label := by simp [declaredLabel, hNonempty]
    -- A name that is the label, or missing, is left out of the parameter, which is then named by
    -- its label.
    by_cases hSame : p.internalName = some label
    · simp [Parameter.internalName, parameter, secondName, hSome, hSame, hDeclared, hLabelled]
    · cases hInternal : p.internalName with
      | none =>
        simp [Parameter.internalName, parameter, secondName, hSome, hInternal, hDeclared, hLabelled]
      | some name =>
        have hNamed : name ≠ "_" := fun hSame => hName (hInternal.trans (congrArg some hSame))
        have hOther : name ≠ label := fun hSame' => hSame (hInternal.trans (congrArg some hSame'))
        simp [Parameter.internalName, parameter, secondName, hSome, hInternal, hOther, hNamed]

theorem analyzed_parameter (hName : p.internalName ≠ some "_") :
    (⟨(parameter p).label, (parameter p).internalName, (parameter p).type, (parameter p).variadic⟩ :
      SignatureParameter) = p.named := by
  rw [label_parameter hLabel, internalName_parameter hLabel hName]
  rfl

end Parameter

theorem parameter_named (p : SignatureParameter) : parameter p.named = parameter p := by
  obtain ⟨label, internalName, type, variadic⟩ := p
  cases label with
  | none => cases internalName <;> rfl
  | some label => cases internalName <;> simp [SignatureParameter.named, parameter, secondName]

theorem label_of_named {p : Parameter} (hName : p.firstName ≠ "") :
    ∀ label, p.label = some label → label ≠ "" ∧ label ≠ "_" := by
  intro label hLabel
  rw [Parameter.label] at hLabel
  split at hLabel
  · cases hLabel
  · rename_i hLabelled
    cases hLabel
    exact ⟨hName, hLabelled⟩

theorem isThrowing_throwsKeyword (isThrowing : Bool) :
    (throwsKeyword isThrowing).isSome = isThrowing := by
  cases isThrowing <;> rfl

theorem throwsKeyword_isThrowing (e : Effects) :
    throwsKeyword e.isThrowing = if e.isThrowing then some "throws" else e.throwsKeyword := by
  rw [throwsKeyword, Effects.isThrowing]
  cases e.throwsKeyword <;> rfl

theorem ofFunction_requirement (excluded : List String) {f : FunctionDecl}
    (hNames : ∀ p ∈ f.parameters, p.firstName ≠ "") :
    Signature.function (Signature.ofFunction (ofFunction excluded (Signature.ofFunction f))) =
      (Signature.function (Signature.ofFunction f)).normalForm excluded := by
  have hParameters : ((f.parameters.map fun p =>
        (⟨p.label, p.internalName, p.type, p.variadic⟩ : SignatureParameter)).map parameter).map
          (fun p => (⟨p.label, p.internalName, p.type, p.variadic⟩ : SignatureParameter)) =
      (Signature.ofFunction f).parameters.map SignatureParameter.named := by
    rw [Signature.ofFunction, List.map_map, List.map_map, List.map_map]
    refine List.map_congr_left fun p hMem => ?_
    exact analyzed_parameter (label_of_named (hNames p hMem)) (internalName_ne_underscore p)
  refine congrArg Signature.function ((FunctionSignature.mk.injEq ..).mpr ?_)
  exact ⟨rfl, hParameters, rfl, isThrowing_throwsKeyword _, rfl, rfl, rfl,
    throwsKeyword_isThrowing f.effects, rfl, rfl, rfl⟩

/-! ## Properties -/

theorem ofVariable_requirement {s : PropertySignature} (hName : isIdentifier s.name = true)
    (excluded : List String) :
    Signature.ofVariable (Requirement.ofProperty excluded s) =
      .ok ⟨s.name, s.type, s.getOnly, s.isAsync, (Requirement.throwsKeyword s.isThrowing).isSome,
        s.attributes.filter Requirement.keepsAttribute,
        Requirement.modifiers excluded s.modifiers⟩ :=
  Signature.ofVariable_computed hName s.type s.getOnly none none _ _ _
    (restrictsSetter_requirement excluded s.modifiers)

/-! ## Members -/

theorem ofSignature_normalForm (excluded : List String) (s : Signature) :
    ofSignature excluded (s.normalForm excluded) = ofSignature excluded s := by
  cases s with
  | function s =>
    have hParameters : (s.parameters.map SignatureParameter.named).map parameter =
        s.parameters.map parameter := by
      rw [List.map_map]
      exact List.map_congr_left fun p _ => parameter_named p
    simp only [ofSignature, Signature.normalForm, ofFunction, hParameters, modifiers_modifiers]
  | property s =>
    simp only [ofSignature, Signature.normalForm, ofProperty, modifiers_modifiers,
      List.filter_filter, Bool.and_self]

theorem ofDecl_ofSignature {d : Decl} {s : Signature} (h : Signature.ofDecl d = .ok (some s))
    (hNames : d.NamesParameters) (excluded : List String) :
    Signature.ofDecl (ofSignature excluded s) = .ok (some (s.normalForm excluded)) := by
  cases s with
  | function s =>
    obtain ⟨f, rfl, rfl⟩ := (Signature.ofDecl_eq_function_iff d s).mp h
    exact congrArg (fun s => Except.ok (some s)) (ofFunction_requirement excluded (hNames f rfl))
  | property s =>
    have hName := Signature.isIdentifier_of_property h
    rw [ofSignature, Signature.ofDecl, ofVariable_requirement hName, isThrowing_throwsKeyword]
    rfl

/-- The requirement of a member is analyzed to the normal form of the signature of the member, and a
requirement made from that is the same. -/
theorem analyzed_requirement {d : Decl} {s : Signature} (h : Signature.ofDecl d = .ok (some s))
    (hNames : d.NamesParameters) (excluded : List String) :
    Signature.ofDecl (ofSignature excluded s) = .ok (some (s.normalForm excluded)) ∧
      (Signature.ofDecl (ofSignature excluded s)).map (Option.map (ofSignature excluded)) =
        .ok (some (ofSignature excluded s)) := by
  have hAnalyzed := ofDecl_ofSignature h hNames excluded
  refine ⟨hAnalyzed, ?_⟩
  rw [hAnalyzed, Except.map, Option.map_some, ofSignature_normalForm]

/-- `final class static nonisolated func load(from _: URL, _ id: Int, _: Bool...) async rethrows ->
Data` -/
def load : FunctionDecl :=
  ⟨"load", [⟨"from", .named "URL" [], some "_", false, none, []⟩,
    ⟨"_", .named "Int" [], some "id", false, some "0", []⟩,
    ⟨"_", .named "Bool" [], none, true, none, []⟩], ⟨true, some "rethrows", none⟩,
    some (.named "Data" []), [], none, none, [],
    [⟨"final", none⟩, ⟨"class", none⟩, ⟨"static", none⟩, ⟨"nonisolated", none⟩], none⟩

theorem analyzed_requirement_load :
    (Decl.function load).NamesParameters ∧
      Signature.ofDecl (ofSignature ["nonisolated"] (.function (Signature.ofFunction load))) =
        .ok (some (.function ⟨"load", [⟨some "from", some "from", .named "URL" [], false⟩,
          ⟨none, some "id", .named "Int" [], false⟩, ⟨none, none, .named "Bool" [], true⟩], true,
          true, some (.named "Data" []), [], none, some "throws", none, [],
          [⟨"static", none⟩]⟩)) ∧
      (Signature.ofDecl (ofSignature ["nonisolated"] (.function (Signature.ofFunction load)))).map
          (Option.map (ofSignature ["nonisolated"])) =
        .ok (some (ofSignature ["nonisolated"] (.function (Signature.ofFunction load)))) := by
  have hNames : (Decl.function load).NamesParameters := by
    rintro f hFunction
    cases hFunction
    decide
  obtain ⟨hAnalyzed, hSame⟩ := analyzed_requirement rfl hNames ["nonisolated"]
  exact ⟨hNames, hAnalyzed.trans rfl, hSame⟩

end Requirement

end SwiftDerive
