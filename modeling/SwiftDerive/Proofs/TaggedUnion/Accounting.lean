import SwiftDerive.Proofs.TaggedUnion.Outline
import SwiftDerive.TaggedUnion.Codec

/-! # What becomes of each case

Every element of a `case` declaration becomes a case of the codec or a diagnostic at the first of its
associated values that has a problem. This depends on the element alone, and cases and diagnostics
keep the order of the elements.
-/

namespace SwiftDerive.TaggedUnion

set_option autoImplicit false

inductive IsPath : TypeRef → Prop where
  | name (name : String) : IsPath (.named name [])
  | member {base : TypeRef} (hBase : IsPath base) (name : String) : IsPath (.member base name [])

theorem isSimple_iff (t : TypeRef) : isSimple t = true ↔ IsPath t := by
  constructor
  · intro h
    fun_induction isSimple t with
    | case1 name arguments =>
      obtain rfl := List.isEmpty_iff.mp h
      exact .name name
    | case2 base name arguments ih =>
      obtain ⟨hArguments, hBase⟩ := Bool.and_eq_true_iff.mp h
      obtain rfl := List.isEmpty_iff.mp hArguments
      exact .member (ih hBase) name
    | case3 => cases h
  · intro h
    induction h with
    | name _ => rfl
    | member _ _ ih => rwa [isSimple, List.isEmpty_nil, Bool.true_and]

/-- An associated value gives the field: its type is a path, and its label is a name other than that
of the discriminator. -/
structure IsField (p : CaseParameter) (f : PayloadField) : Prop where
  path : IsPath p.type
  label : p.firstName = some f.label
  named : f.label ≠ "_"
  free : Text.plainName f.label ≠ "type"
  type : f.type = p.type

/-- What is wrong with an associated value: its type comes before its label. -/
inductive Offends (p : CaseParameter) : Message → Prop where
  | type (hType : ¬ IsPath p.type) : Offends p .unsupportedCaseValueType
  | missing (hType : IsPath p.type) (hLabel : p.firstName = none ∨ p.firstName = some "_") :
      Offends p .missingCaseLabel
  | reserved {label : String} (hType : IsPath p.type) (hLabel : p.firstName = some label)
      (hReserved : Text.plainName label = "type") : Offends p .reservedCaseLabel

/-- An element becomes a case when all of its associated values are fields. Fields before one that has
a problem are given up. -/
inductive Becomes (e : CaseElement) : Except Diagnostic CaseSpec → Prop where
  | bare (h : e.parameters = none) : Becomes e (.ok ⟨e.name, none⟩)
  | payload {ps : List CaseParameter} {fs : List PayloadField} (h : e.parameters = some ps)
      (hFields : List.Forall₂ IsField ps fs) : Becomes e (.ok ⟨e.name, some fs⟩)
  | problem {before after : List CaseParameter} {p : CaseParameter} {message : Message}
      (h : e.parameters = some (before ++ p :: after))
      (hBefore : ∀ q ∈ before, ∃ f, IsField q f) (hOffends : Offends p message) :
      Becomes e (.error (message.at p.position))

/-- The elements are shared out to cases and diagnostics, in order. -/
inductive Splits : List CaseElement → List CaseSpec → List Diagnostic → Prop where
  | nil : Splits [] [] []
  | case {e : CaseElement} {es : List CaseElement} {c : CaseSpec} {cs : List CaseSpec}
      {ds : List Diagnostic} (hElement : Becomes e (.ok c)) (hRest : Splits es cs ds) :
      Splits (e :: es) (c :: cs) ds
  | problem {e : CaseElement} {es : List CaseElement} {cs : List CaseSpec} {d : Diagnostic}
      {ds : List Diagnostic} (hElement : Becomes e (.error d)) (hRest : Splits es cs ds) :
      Splits (e :: es) cs (d :: ds)

/-! ## One associated value -/

theorem fieldOf_eq_ok_iff_isField (p : CaseParameter) (f : PayloadField) :
    fieldOf p = .ok f ↔ IsField p f := by
  rw [fieldOf_eq_ok_iff, isSimple_iff]
  constructor
  · rintro ⟨hPath, hLabel, hNamed, hFree, hType⟩
    exact ⟨hPath, hLabel, hNamed, hFree, hType⟩
  · intro h
    exact ⟨h.path, h.label, h.named, h.free, h.type⟩

theorem fieldOf_of_offends {p : CaseParameter} {message : Message} (h : Offends p message) :
    fieldOf p = .error message := by
  cases h with
  | type hType =>
    rw [← isSimple_iff, Bool.not_eq_true] at hType
    simp [fieldOf, hType]
  | missing hType hLabel =>
    rw [← isSimple_iff] at hType
    rcases hLabel with hLabel | hLabel <;> simp [fieldOf, hType, hLabel]
  | @reserved label hType hLabel hReserved =>
    rw [← isSimple_iff] at hType
    have hNamed : label ≠ "_" := by
      rintro rfl
      exact absurd hReserved (by decide)
    simp [fieldOf, hType, hLabel, hNamed, hReserved, discriminatorKey]

theorem offends_of_fieldOf {p : CaseParameter} {message : Message}
    (h : fieldOf p = .error message) : Offends p message := by
  by_cases hPath : IsPath p.type
  · have hSimple := (isSimple_iff p.type).mpr hPath
    cases hLabel : p.firstName with
    | none =>
      simp [fieldOf, hSimple, hLabel] at h
      exact h ▸ .missing hPath (.inl hLabel)
    | some label =>
      by_cases hNamed : label = "_"
      · simp [fieldOf, hSimple, hLabel, hNamed] at h
        exact h ▸ .missing hPath (.inr (hNamed ▸ hLabel))
      · by_cases hReserved : Text.plainName label = "type"
        · simp [fieldOf, hSimple, hLabel, hNamed, hReserved, discriminatorKey] at h
          exact h ▸ .reserved hPath hLabel hReserved
        · simp [fieldOf, hSimple, hLabel, hNamed, hReserved, discriminatorKey] at h
  · have hSimple : isSimple p.type = false := by rwa [← Bool.not_eq_true, isSimple_iff]
    simp [fieldOf, hSimple] at h
    exact h ▸ .type hPath

theorem fieldOf_eq_error_iff (p : CaseParameter) (message : Message) :
    fieldOf p = .error message ↔ Offends p message :=
  ⟨offends_of_fieldOf, fieldOf_of_offends⟩

/-! ## One element -/

theorem fieldsOf_eq_error_iff (ps : List CaseParameter) (d : Diagnostic) :
    fieldsOf ps = .error d ↔ ∃ before p after, ps = before ++ p :: after ∧
      (∀ q ∈ before, ∃ f, IsField q f) ∧ ∃ message, Offends p message ∧ d = message.at p.position := by
  induction ps with
  | nil => simp [fieldsOf]
  | cons p ps ih =>
    rw [exists_first_cons_iff, ← ih, fieldsOf]
    simp only [← fieldOf_eq_error_iff, ← fieldOf_eq_ok_iff_isField]
    cases fieldOf p with
    | error message => simp [eq_comm]
    | ok f => simp [map_eq_error_iff]

theorem becomes_iff (e : CaseElement) (outcome : Except Diagnostic CaseSpec) :
    Becomes e outcome ↔ specOf e = outcome := by
  have hFields : ∀ ps fs, List.Forall₂ IsField ps fs ↔
      List.Forall₂ (fun p f => fieldOf p = .ok f) ps fs := by
    intro ps fs
    simp only [fieldOf_eq_ok_iff_isField]
  constructor
  · intro h
    cases h with
    | bare hNone => exact (specOf_eq_ok_iff e _).mpr (.inl ⟨hNone, rfl⟩)
    | @payload ps fs hSome hForall =>
      exact (specOf_eq_ok_iff e _).mpr (.inr ⟨ps, fs, hSome, (hFields ps fs).mp hForall, rfl⟩)
    | problem hSome hBefore hOffends =>
      rw [specOf, hSome, map_eq_error_iff, fieldsOf_eq_error_iff]
      exact ⟨_, _, _, rfl, hBefore, _, hOffends, rfl⟩
  · rintro rfl
    cases hSpec : specOf e with
    | ok c =>
      rcases (specOf_eq_ok_iff e c).mp hSpec with ⟨hNone, rfl⟩ | ⟨ps, fs, hSome, hForall, rfl⟩
      · exact .bare hNone
      · exact .payload hSome ((hFields ps fs).mpr hForall)
    | error d =>
      cases hParameters : e.parameters with
      | none => simp [specOf, hParameters] at hSpec
      | some ps =>
        rw [specOf, hParameters, map_eq_error_iff, fieldsOf_eq_error_iff] at hSpec
        obtain ⟨before, p, after, rfl, hBefore, message, hOffends, rfl⟩ := hSpec
        exact .problem hParameters hBefore hOffends

/-! ## All elements -/

theorem splits_cons_iff (e : CaseElement) (es : List CaseElement) (cs : List CaseSpec)
    (ds : List Diagnostic) :
    Splits (e :: es) cs ds ↔
      (∃ c rest, specOf e = .ok c ∧ cs = c :: rest ∧ Splits es rest ds) ∨
        ∃ d rest, specOf e = .error d ∧ ds = d :: rest ∧ Splits es cs rest := by
  constructor
  · intro h
    cases h with
    | case hElement hRest => exact .inl ⟨_, _, (becomes_iff e _).mp hElement, rfl, hRest⟩
    | problem hElement hRest => exact .inr ⟨_, _, (becomes_iff e _).mp hElement, rfl, hRest⟩
  · rintro (⟨c, rest, hSpec, rfl, hRest⟩ | ⟨d, rest, hSpec, rfl, hRest⟩)
    · exact .case ((becomes_iff e _).mpr hSpec) hRest
    · exact .problem ((becomes_iff e _).mpr hSpec) hRest

theorem splits_iff (es : List CaseElement) (cs : List CaseSpec) (ds : List Diagnostic) :
    Splits es cs ds ↔ cs = (es.map specOf).filterMap Except.toOption ∧
      ds = (es.map specOf).filterMap fun
        | .error d => some d
        | .ok _ => none := by
  induction es generalizing cs ds with
  | nil =>
    constructor
    · intro h
      cases h
      exact ⟨rfl, rfl⟩
    · rintro ⟨rfl, rfl⟩
      exact .nil
  | cons e es ih =>
    rw [splits_cons_iff, List.map_cons]
    cases hSpec : specOf e with
    | ok c => simp [ih, Except.toOption]
    | error d => simp [ih, List.filterMap_cons, Except.toOption, and_comm]

end SwiftDerive.TaggedUnion
