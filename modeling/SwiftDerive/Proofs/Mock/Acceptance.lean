import SwiftDerive.Expansion
import SwiftDerive.Proofs.Mock.Dependency

/-! # Which types are accepted

The exposed members of a type are looked at in order. The first one with a problem ends the
derivation, with one diagnostic; without a problem each of them has a slot. Members that are not
exposed are not looked at.
-/

namespace SwiftDerive.Mock

set_option autoImplicit false

def BindsName (v : VariableDecl) (b : Binding) : Prop :=
  v.bindings = [b] ∧ isIdentifier b.pattern = true

inductive HasProblem : Decl → Message → Prop where
  | binding {v : VariableDecl} (hBindings : ∀ b, ¬ BindsName v b) :
      HasProblem (.variable v) (.missingBinding "variable declaration")
  | type {v : VariableDecl} {b : Binding} (hBinds : BindsName v b) (hType : b.type = none) :
      HasProblem (.variable v) (.missingType ("'" ++ b.pattern ++ "'"))
  | opaqueProperty {v : VariableDecl} {b : Binding} {t : TypeRef} (hBinds : BindsName v b)
      (hType : b.type = some t) (hOpaque : t.hasSpecifier "some" = true) :
      HasProblem (.variable v) (.opaqueResultType ("'" ++ b.pattern ++ "'"))
  | opaqueFunction {f : FunctionDecl} {t : TypeRef} (hResult : f.result = some t)
      (hOpaque : t.hasSpecifier "some" = true) :
      HasProblem (.function f) (.opaqueResultType ("'" ++ f.name ++ "'"))

def FirstProblem (isPublic : Bool) (members : List Decl) (e : Diagnostic) : Prop :=
  ∃ before first after message, members = before ++ first :: after ∧
    first.isExposed isPublic = true ∧ HasProblem first message ∧
    e = message.at first.position ∧
    ∀ member ∈ before, member.isExposed isPublic = true → ∀ message, ¬ HasProblem member message

/-! ## Properties -/

section Property

variable {v : VariableDecl} {b : Binding}

theorem ofVariable_of_unbound (h : ∀ b, ¬ BindsName v b) :
    Signature.ofVariable v = .error .missingBinding := by
  unfold Signature.ofVariable
  split
  · next b hBindings =>
    split
    · next hName => exact absurd ⟨hBindings, hName⟩ (h b)
    · rfl
  · rfl

theorem ofVariable_of_untyped (hBinds : BindsName v b) (hType : b.type = none) :
    Signature.ofVariable v = .error (.missingType b.pattern) := by
  obtain ⟨hBindings, hName⟩ := hBinds
  simp only [Signature.ofVariable, hBindings, hName, hType, if_true]

theorem ofVariable_of_typed (hBinds : BindsName v b) {t : TypeRef} (hType : b.type = some t) :
    ∃ s, Signature.ofVariable v = .ok s ∧ s.name = b.pattern ∧ s.type = t := by
  obtain ⟨hBindings, hName⟩ := hBinds
  exact ⟨_, (Signature.ofVariable_eq_ok_iff v _).mpr ⟨b, t, hBindings, hName, hType, rfl⟩, rfl, rfl⟩

theorem BindsName.isEmpty_eq_false (h : BindsName v b) : b.pattern.isEmpty = false := by
  by_contra hEmpty
  have hName := h.2
  rw [String.isEmpty_iff.mp (Bool.of_not_eq_false hEmpty)] at hName
  exact absurd hName (by decide)

end Property

/-! ## One member -/

theorem analyzeMember_of_untyped {v : VariableDecl} {b : Binding} (hBinds : BindsName v b)
    (hType : b.type = none) : analyzeMember (.variable v) =
      .error ((Message.missingType ("'" ++ b.pattern ++ "'")).at v.position) := by
  rw [analyzeMember, Signature.ofDecl, ofVariable_of_untyped hBinds hType]
  simp only [Except.map, hBinds.isEmpty_eq_false]
  rfl

theorem analyzeMember_of_signature {member : Decl} {s : Signature}
    (h : Signature.ofDecl member = .ok (some s)) : analyzeMember member =
      if s.resultType?.any (·.hasSpecifier "some") then
        .error ((Message.opaqueResultType ("'" ++ s.name ++ "'")).at member.position)
      else .ok (some s) := by
  rw [analyzeMember, h]

theorem ofDecl_of_typed {v : VariableDecl} {b : Binding} {t : TypeRef} (hBinds : BindsName v b)
    (hType : b.type = some t) :
    ∃ s : Signature, Signature.ofDecl (.variable v) = .ok (some s) ∧ s.name = b.pattern ∧
      s.resultType? = some t := by
  obtain ⟨s, hSignature, hName, rfl⟩ := ofVariable_of_typed hBinds hType
  exact ⟨.property s, by rw [Signature.ofDecl, hSignature]; rfl, hName, rfl⟩

theorem hasProblem_of_error {member : Decl} {e : Diagnostic} (h : analyzeMember member = .error e) :
    ∃ message, HasProblem member message ∧ e = message.at member.position := by
  match member with
  | .function f =>
    rw [analyzeMember_of_signature (s := .function (Signature.ofFunction f)) rfl] at h
    split at h
    · next hOpaque =>
      cases h
      obtain ⟨t, hResult, hSome⟩ := (Option.any_eq_true _ _).mp hOpaque
      exact ⟨_, .opaqueFunction hResult hSome, rfl⟩
    · cases h
  | .variable v =>
    by_cases hBound : ∃ b, BindsName v b
    · obtain ⟨b, hBinds⟩ := hBound
      cases hType : b.type with
      | none =>
        rw [analyzeMember_of_untyped hBinds hType] at h
        cases h
        exact ⟨_, .type hBinds hType, rfl⟩
      | some t =>
        obtain ⟨s, hSignature, hName, hResult⟩ := ofDecl_of_typed hBinds hType
        rw [analyzeMember_of_signature hSignature, hResult, hName, Option.any_some] at h
        split at h
        · next hOpaque =>
          cases h
          exact ⟨_, .opaqueProperty hBinds hType hOpaque, rfl⟩
        · cases h
    · rw [not_exists] at hBound
      rw [analyzeMember, Signature.ofDecl, ofVariable_of_unbound hBound] at h
      cases h
      exact ⟨_, .binding hBound, rfl⟩
  | .initializer _ | .enumCase _ | .type _ _ | .raw _ _ | .statement _ | .file _ => cases h

theorem error_of_hasProblem {member : Decl} {message : Message} (h : HasProblem member message) :
    analyzeMember member = .error (message.at member.position) := by
  cases h with
  | binding hBindings =>
    rw [analyzeMember, Signature.ofDecl, ofVariable_of_unbound hBindings]
    rfl
  | type hBinds hType => exact analyzeMember_of_untyped hBinds hType
  | opaqueProperty hBinds hType hOpaque =>
    obtain ⟨s, hSignature, hName, hResult⟩ := ofDecl_of_typed hBinds hType
    rw [analyzeMember_of_signature hSignature, hResult, hName, Option.any_some, if_pos hOpaque]
  | @opaqueFunction f t hResult hOpaque =>
    have hAny : (Signature.function (Signature.ofFunction f)).resultType?.any
        (·.hasSpecifier "some") = true := (Option.any_eq_true _ _).mpr ⟨t, hResult, hOpaque⟩
    rw [analyzeMember_of_signature (s := .function (Signature.ofFunction f)) rfl, if_pos hAny]
    rfl

theorem analyzeMember_eq_error_iff (member : Decl) (e : Diagnostic) :
    analyzeMember member = .error e ↔
      ∃ message, HasProblem member message ∧ e = message.at member.position := by
  constructor
  · exact hasProblem_of_error
  · rintro ⟨message, hProblem, rfl⟩
    exact error_of_hasProblem hProblem

/-! ## All members -/

section Members

variable {isPublic : Bool}

theorem firstProblem_cons_iff (member : Decl) (members : List Decl) (e : Diagnostic) :
    FirstProblem isPublic (member :: members) e ↔
      (member.isExposed isPublic = true ∧ analyzeMember member = .error e) ∨
      ((member.isExposed isPublic = true → ∀ message, ¬ HasProblem member message) ∧
        FirstProblem isPublic members e) := by
  rw [analyzeMember_eq_error_iff]
  constructor
  · rintro ⟨before, first, after, message, hSplit, hExposed, hProblem, hDiagnostic, hBefore⟩
    cases before with
    | nil =>
      obtain ⟨rfl, rfl⟩ := List.cons.inj hSplit
      exact .inl ⟨hExposed, message, hProblem, hDiagnostic⟩
    | cons other before =>
      obtain ⟨rfl, rfl⟩ := List.cons.inj hSplit
      obtain ⟨hClear, hBefore⟩ := List.forall_mem_cons.mp hBefore
      exact .inr ⟨hClear, before, first, after, message, rfl, hExposed, hProblem, hDiagnostic,
        hBefore⟩
  · rintro (⟨hExposed, message, hProblem, hDiagnostic⟩ | ⟨hClear, hLater⟩)
    · exact ⟨[], member, members, message, rfl, hExposed, hProblem, hDiagnostic,
        List.forall_mem_nil _⟩
    · obtain ⟨before, first, after, message, rfl, hExposed, hProblem, hDiagnostic, hBefore⟩ :=
        hLater
      exact ⟨member :: before, first, after, message, rfl, hExposed, hProblem, hDiagnostic,
        List.forall_mem_cons.mpr ⟨hClear, hBefore⟩⟩

theorem analyzeMembers_eq_error_iff (members : List Decl) (e : Diagnostic) :
    analyzeMembers (members.filter (Decl.isExposed isPublic)) = .error e ↔
      FirstProblem isPublic members e := by
  -- The filter is moved past one member at a time: a hidden one goes, and has no say on the right.
  induction members with
  | nil =>
    constructor
    · intro h
      cases h
    · rintro ⟨before, first, after, _, hSplit, _⟩
      cases before <;> cases hSplit
  | cons member members ih =>
    rw [firstProblem_cons_iff, ← ih]
    by_cases hExposed : member.isExposed isPublic = true
    · rw [List.filter_cons_of_pos hExposed, analyzeMembers]
      cases hHead : analyzeMember member with
      | error e' =>
        have hProblem := hasProblem_of_error hHead
        constructor
        · intro h
          cases h
          exact .inl ⟨hExposed, rfl⟩
        · rintro (⟨_, hSame⟩ | ⟨hClear, _⟩)
          · cases hSame
            rfl
          · obtain ⟨message, hMessage, _⟩ := hProblem
            exact absurd hMessage (hClear hExposed message)
      | ok s =>
        have hClear : ∀ message, ¬ HasProblem member message := by
          intro message hProblem
          rw [error_of_hasProblem hProblem] at hHead
          cases hHead
        constructor
        · intro h
          refine .inr ⟨fun _ => hClear, ?_⟩
          cases hTail : analyzeMembers (members.filter (Decl.isExposed isPublic)) with
          | error e' => rwa [hTail] at h
          | ok ss =>
            rw [hTail] at h
            cases h
        · rintro (⟨_, hSame⟩ | ⟨_, hTail⟩)
          · cases hSame
          · rw [hTail]
    · rw [List.filter_cons_of_neg hExposed]
      constructor
      · exact fun h => .inr ⟨fun hSome => absurd hSome hExposed, h⟩
      · rintro (⟨hSome, _⟩ | ⟨_, h⟩)
        · exact absurd hSome hExposed
        · exact h

theorem exists_firstProblem_iff (members : List Decl) :
    (∃ e, FirstProblem isPublic members e) ↔
      ∃ member ∈ members, member.isExposed isPublic = true ∧
        ∃ message, HasProblem member message := by
  constructor
  · rintro ⟨_, before, first, after, message, rfl, hExposed, hProblem, _⟩
    exact ⟨first, List.mem_append_right _ List.mem_cons_self, hExposed, message, hProblem⟩
  · intro h
    induction members with
    | nil =>
      obtain ⟨_, hMember, _⟩ := h
      cases hMember
    | cons member members ih =>
      by_cases hHead : member.isExposed isPublic = true ∧ ∃ message, HasProblem member message
      · obtain ⟨hExposed, message, hProblem⟩ := hHead
        exact ⟨_, (firstProblem_cons_iff member members _).mpr
          (.inl ⟨hExposed, error_of_hasProblem hProblem⟩)⟩
      · obtain ⟨other, hMember, hOther⟩ := h
        rcases List.mem_cons.mp hMember with rfl | hTail
        · exact absurd hOther hHead
        · obtain ⟨e, hFirst⟩ := ih ⟨other, hTail, hOther⟩
          refine ⟨e, (firstProblem_cons_iff member members e).mpr (.inr ⟨?_, hFirst⟩)⟩
          exact fun hExposed message hProblem => hHead ⟨hExposed, message, hProblem⟩

end Members

/-! ## The derivation -/

section Derivation

variable {header : TypeHeader} {members : List Decl}

theorem exists_kind (hKind : header.kind ∈ [.structType, .classType, .actorType]) :
    ∃ kind, DependencyKind.ofTypeKind? header.kind = some kind := by
  simp only [List.mem_cons, List.not_mem_nil, or_false] at hKind
  rcases hKind with hKind | hKind | hKind <;> exact ⟨_, by rw [hKind]; rfl⟩

theorem Dependency.ofDecl_eq_error_iff
    (hKind : header.kind ∈ [.structType, .classType, .actorType]) (attachment : Option Position)
    (members : List Decl) (e : Diagnostic) :
    Dependency.ofDecl attachment (.type header members) = .error e ↔
      FirstProblem header.isPublic members e := by
  obtain ⟨kind, hKind⟩ := exists_kind hKind
  rw [Dependency.ofDecl_type hKind, map_eq_error_iff, analyzeMembers_eq_error_iff]

/-- A member that is not exposed is not looked at. -/
theorem Dependency.ofDecl_without (hKind : header.kind ∈ [.structType, .classType, .actorType])
    {before after : List Decl} {member : Decl} (hHidden : member.isExposed header.isPublic = false)
    (attachment : Option Position) :
    Dependency.ofDecl attachment (.type header (before ++ after)) =
      Dependency.ofDecl attachment (.type header (before ++ member :: after)) := by
  obtain ⟨kind, hKind⟩ := exists_kind hKind
  rw [Dependency.ofDecl_type hKind, Dependency.ofDecl_type hKind, List.filter_append,
    List.filter_append, List.filter_cons_of_neg (by simp [hHidden])]

end Derivation

theorem outcome_dependency_eq_error_iff (a : Attribute) (d : Decl) (ds : List Diagnostic) :
    (Reporting.dependency a d).outcome = .error ds ↔
      ∃ e, Dependency.ofDecl a.position d = .error e ∧ ds = [e] := by
  rw [Reporting.dependency]
  cases Dependency.ofDecl a.position d <;> simp [Reporting.result, Reporting.abort, eq_comm]

theorem outcome_dependency_eq_ok_iff (a : Attribute) (d : Decl) (dep : Dependency) :
    (Reporting.dependency a d).outcome = .ok dep ↔ Dependency.ofDecl a.position d = .ok dep := by
  rw [Reporting.dependency]
  cases Dependency.ofDecl a.position d <;> simp [Reporting.result, Reporting.abort]

/-- The derivation fails exactly if an exposed member has a problem, with the diagnostic for the
first one alone. Else there is a slot for each exposed member, in order. Taking away a member that
is not exposed changes nothing that the attribute gives. -/
theorem dependency_fails_at_first_problem {header : TypeHeader}
    (hKind : header.kind ∈ [.structType, .classType, .actorType]) (members : List Decl)
    (a : Attribute) :
    ((∃ ds, (Reporting.dependency a (.type header members)).outcome = .error ds) ↔
        ∃ member ∈ members, member.isExposed header.isPublic = true ∧
          ∃ message, HasProblem member message) ∧
      (∀ ds, (Reporting.dependency a (.type header members)).outcome = .error ds ↔
        ∃ e, FirstProblem header.isPublic members e ∧ ds = [e]) ∧
      (∀ dep, (Reporting.dependency a (.type header members)).outcome = .ok dep →
        List.Forall₂ (fun member s => Signature.ofDecl member = .ok (some s))
          (members.filter (Decl.isExposed header.isPublic)) (dep.slots.map Slot.signature)) ∧
      ∀ before member after, members = before ++ member :: after →
        member.isExposed header.isPublic = false →
          Generator.autoDependency.run a (.type header (before ++ after)) =
            Generator.autoDependency.run a (.type header members) := by
  have hFails : ∀ ds, (Reporting.dependency a (.type header members)).outcome = .error ds ↔
      ∃ e, FirstProblem header.isPublic members e ∧ ds = [e] := by
    intro ds
    simp only [outcome_dependency_eq_error_iff, Dependency.ofDecl_eq_error_iff hKind]
  refine ⟨?_, hFails, ?_, ?_⟩
  · rw [← exists_firstProblem_iff]
    simp only [hFails]
    exact ⟨fun ⟨_, e, hFirst, _⟩ => ⟨e, hFirst⟩, fun ⟨e, hFirst⟩ => ⟨[e], e, hFirst, rfl⟩⟩
  · intro dep hAccepted
    have hSlots := analyzed_slots ((outcome_dependency_eq_ok_iff a _ dep).mp hAccepted)
    exact hSlots.imp fun _ _ hAnalyzed => hAnalyzed.ofDecl_eq
  · rintro before member after rfl hHidden
    have hSame : Reporting.dependency a (.type header (before ++ after)) =
        Reporting.dependency a (.type header (before ++ member :: after)) := by
      rw [Reporting.dependency, Reporting.dependency, Dependency.ofDecl_without hKind hHidden]
    simp only [Generator.run, Generator.autoDependency, hSame]

/-! ## A type with hidden and exposed problems -/

def gaugeHeader : TypeHeader :=
  ⟨.structType, "Gauge", [], [], none, [], [⟨"public", none⟩], none⟩

def gaugeAttribute : Attribute := ⟨"AutoDependency", none, some ⟨1, 1⟩⟩

/-- `var (low, high): (Int, Int)` -/
def gaugeBounds : Decl :=
  .variable ⟨"var", [⟨"(low, high)", some (.tuple []), none, none⟩], [], [], some ⟨2, 5⟩⟩

def gaugeRead : Decl :=
  .function ⟨"read", [], .empty, some (.named "Int" []), [], none, none, [], [⟨"public", none⟩],
    some ⟨3, 5⟩⟩

def gaugeLevel : Decl :=
  .variable ⟨"var", [⟨"level", none, some "0", none⟩], [], [⟨"public", none⟩], some ⟨4, 5⟩⟩

def gaugeView : Decl :=
  .function ⟨"view", [], .empty, some (.attributed ["some"] (.named "View" [])), [], none, none, [],
    [⟨"public", none⟩], some ⟨5, 5⟩⟩

theorem dependency_fails_at_first_problem_gauge :
    gaugeHeader.kind ∈ [TypeKind.structType, .classType, .actorType] ∧
      (Reporting.dependency gaugeAttribute
          (.type gaugeHeader [gaugeBounds, gaugeRead, gaugeLevel, gaugeView])).outcome =
        .error [(Message.missingType "'level'").at (some ⟨4, 5⟩)] ∧
      Generator.autoDependency.run gaugeAttribute
          (.type gaugeHeader [gaugeRead, gaugeLevel, gaugeView]) =
        Generator.autoDependency.run gaugeAttribute
          (.type gaugeHeader [gaugeBounds, gaugeRead, gaugeLevel, gaugeView]) := by
  have hKind : gaugeHeader.kind ∈ [TypeKind.structType, .classType, .actorType] := by decide
  have hClear : ∀ member ∈ [gaugeBounds, gaugeRead],
      member.isExposed gaugeHeader.isPublic = true → ∀ message, ¬ HasProblem member message := by
    rintro member hMember hExposed message hProblem
    rcases List.mem_pair.mp hMember with rfl | rfl
    · exact absurd hExposed (by decide)
    · cases error_of_hasProblem hProblem
  obtain ⟨_, hFails, _, hWithout⟩ := dependency_fails_at_first_problem hKind
    [gaugeBounds, gaugeRead, gaugeLevel, gaugeView] gaugeAttribute
  refine ⟨hKind, (hFails _).mpr ⟨_, ?_, rfl⟩, hWithout [] gaugeBounds _ rfl (by decide)⟩
  exact ⟨[gaugeBounds, gaugeRead], gaugeLevel, [gaugeView], _, rfl, by decide,
    .type ⟨rfl, by decide⟩ rfl, rfl, hClear⟩

end SwiftDerive.Mock
