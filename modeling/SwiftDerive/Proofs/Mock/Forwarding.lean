import SwiftDerive.Proofs.Mock.Dependency
import SwiftDerive.Proofs.Mock.Erasure
import SwiftDerive.Proofs.Requirement

/-! # Forwarding to a slot

The call in a forwarding function is made from the signature as declared, the type of the slot from
the signature with its generic parameters erased. The call fits the type all the same: erasure keeps
what is `inout`, and a result that it changes mentions a generic parameter, so that it is cast.
-/

namespace SwiftDerive.Mock

set_option autoImplicit false

/-! ## Arguments -/

theorem numberedName_ne {name : String} (hName : name.toList.head? ≠ some 'a') (index : Nat) :
    "arg" ++ toString index ≠ name := by
  rintro rfl
  exact hName (by simp [String.toList_append])

theorem forwardedName_ne_empty (index : Nat) (p : SignatureParameter) :
    forwardedName index p ≠ "" := by
  unfold forwardedName
  split
  · exact numberedName_ne (by decide) index
  · split
    · exact numberedName_ne (by decide) index
    · rename_i hName
      simpa using hName

theorem forwardedName_ne_underscore {p : SignatureParameter} (h : p.internalName ≠ some "_")
    (index : Nat) : forwardedName index p ≠ "_" := by
  unfold forwardedName
  split
  · exact numberedName_ne (by decide) index
  · rename_i name hName
    split
    · exact numberedName_ne (by decide) index
    · rintro rfl
      exact h hName

theorem internalName_forwardedParameter {p : SignatureParameter} (h : p.internalName ≠ some "_")
    (index : Nat) :
    (forwardedParameter index p).internalName = some (forwardedName index p) := by
  have hName := forwardedName_ne_underscore h index
  by_cases hLabel : p.label = some (forwardedName index p)
  · have hNonempty : (forwardedName index p).isEmpty = false := by
      simpa using forwardedName_ne_empty index p
    simp [Parameter.internalName, forwardedParameter, Requirement.declaredLabel, hLabel, hNonempty,
      hName]
  · simp [Parameter.internalName, forwardedParameter, hLabel, hName]

/-! ## Arguments that are passed in place -/

theorem hasSpecifier_substitute {specifier : String} {σ : Substitution}
    (hσ : ∀ name u, σ name = some u → u.hasSpecifier specifier = false) (t : TypeRef) :
    (t.substitute σ).hasSpecifier specifier = t.hasSpecifier specifier := by
  match t with
  | .named name [] =>
    cases hName : σ name with
    | none => simp [TypeRef.substitute, hName]
    | some u => simpa [TypeRef.substitute, hName, TypeRef.hasSpecifier] using hσ name u hName
  | .named _ (_ :: _) | .member .. | .optional .. | .array _ | .dictionary .. | .tuple _
  | .function .. | .attributed .. | .composition _ | .metatype .. => rfl

theorem hasSpecifier_opened {specifier : String} (hSome : specifier ≠ "some")
    (hAny : specifier ≠ "any") (t : TypeRef) :
    (opened t).hasSpecifier specifier = t.hasSpecifier specifier := by
  match t with
  | .attributed specifiers base =>
    have hSame : ∀ s : String, specifier = (if s == "some" then "any" else s) ↔ specifier = s := by
      intro s
      by_cases h : s = "some"
      · simp [h, hSome, hAny]
      · simp [h]
    rw [opened, TypeRef.hasSpecifier, TypeRef.hasSpecifier, Bool.eq_iff_iff]
    simp only [List.contains_iff_mem, List.mem_map]
    constructor
    · rintro ⟨s, hMem, rfl⟩
      rwa [← (hSame s).mp rfl] at hMem
    · intro hMem
      exact ⟨specifier, hMem, ((hSame specifier).mpr rfl).symm⟩
  | .named .. | .member .. | .optional .. | .array _ | .dictionary .. | .tuple _ | .function ..
  | .composition _ | .metatype .. => rfl

/-- A `where` clause, if there is one, asks for no type that is `inout` itself. -/
def DemandsNoInout (whereClause : Option WhereClause) : Prop :=
  ∀ clause, whereClause = some clause → ∀ r ∈ clause.requirements,
    r.right.hasSpecifier "inout" = false

theorem exists_requirement_of_equatedType {s : FunctionSignature} {name : String} {t : TypeRef}
    (h : equatedType? s name = some t) :
    ∃ clause, s.whereClause = some clause ∧ ∃ r ∈ clause.requirements, r.right = t := by
  obtain ⟨r, hMem, hRight⟩ := List.mem_filterMap.mp (List.mem_of_getLast? h)
  cases hClause : s.whereClause with
  | none => simp [hClause] at hMem
  | some clause =>
    have hRequirement : r ∈ clause.requirements := by simpa [hClause] using hMem
    refine ⟨clause, rfl, r, hRequirement, ?_⟩
    split at hRight
    · split at hRight
      · exact Option.some.inj hRight
      · cases hRight
    · cases hRight

theorem hasSpecifier_erasureOf {s : FunctionSignature} (h : DemandsNoInout s.whereClause)
    (name : String) : (erasureOf s name).hasSpecifier "inout" = false := by
  unfold erasureOf
  split
  · rename_i hEquated
    obtain ⟨clause, hClause, r, hMem, rfl⟩ := exists_requirement_of_equatedType hEquated
    exact h clause hClause r hMem
  all_goals rfl

/-- The slot takes an argument in place where the parameter is declared so. -/
theorem hasSpecifier_slotParameterType {s : FunctionSignature} (h : DemandsNoInout s.whereClause)
    {p : SignatureParameter} (hVariadic : p.variadic = false) :
    (slotParameterType s p).hasSpecifier "inout" = p.isInout := by
  rw [slotParameterType, hasSpecifier_opened (by decide) (by decide), hVariadic,
    if_neg Bool.false_ne_true, SignatureParameter.isInout]
  apply hasSpecifier_substitute
  intro name u hReplaced
  obtain ⟨_, rfl⟩ := (erasing_eq_some_iff s name u).mp hReplaced
  exact hasSpecifier_erasureOf h name

/-! ## Calls -/

def Names (p : Parameter) (argument : String) : Prop :=
  ∃ name, p.internalName = some name ∧ (argument = name ∨ argument = "&" ++ name)

/-- The argument stands behind `&` exactly when the closure takes it in place. Of a variadic
parameter the closure takes an array. -/
def PassedAsTaken (pair : Parameter × TupleElement TypeRef) (argument : String) : Prop :=
  pair.1.variadic = false →
    ((∃ name, pair.1.internalName = some name ∧ argument = "&" ++ name) ↔
      pair.2.type.hasSpecifier "inout" = true)

def castText : Option TypeRef → String
  | none => ""
  | some type => " as! " ++ type.render

/-- The body of a function returns the call of a closure that takes these parameters, with these
effects and this result. -/
structure Calls (f : FunctionDecl) (closure : String) (parameters : List (TupleElement TypeRef))
    (result : TypeRef) (isAsync isThrowing : Bool) (arguments : List String)
    (cast : Option TypeRef) : Prop where
  body : f.body = some (Construct.codeOf ["return " ++
    ((if isThrowing then "try " else "") ++ (if isAsync then "await " else "") ++ closure ++ "(" ++
      commaSeparated arguments ++ ")" ++ castText cast)])
  count : arguments.length = parameters.length
  named : List.Forall₂ Names f.parameters arguments
  inPlace : DemandsNoInout f.whereClause →
    List.Forall₂ PassedAsTaken (f.parameters.zip parameters) arguments
  cast_declared : cast = none ∨ cast = f.result
  cast_back : ∀ declared, f.result = some declared → result ≠ declared → cast = some declared

def ForwardsTo (f : FunctionDecl) (closure : String) (type : TypeRef) : Prop :=
  ∃ parameters result isAsync isThrowing thrown arguments cast,
    type = .function parameters result isAsync isThrowing thrown ∧
      Calls f closure parameters result isAsync isThrowing arguments cast

def argumentText (index : Nat) (p : SignatureParameter) : String :=
  if p.isInout then "&" ++ forwardedName index p else forwardedName index p

theorem names_argumentText {p : SignatureParameter} (h : p.internalName ≠ some "_")
    (index : Nat) : Names (forwardedParameter index p) (argumentText index p) := by
  refine ⟨forwardedName index p, internalName_forwardedParameter h index, ?_⟩
  unfold argumentText
  split
  · exact .inr rfl
  · exact .inl rfl

theorem passedAsTaken_argumentText {s : FunctionSignature} (hDemands : DemandsNoInout s.whereClause)
    {p : SignatureParameter} (h : p.internalName ≠ some "_") (index : Nat) :
    PassedAsTaken (forwardedParameter index p, slotElement s p) (argumentText index p) := by
  intro hVariadic
  rw [internalName_forwardedParameter h index, slotElement,
    hasSpecifier_slotParameterType hDemands hVariadic]
  unfold argumentText
  cases p.isInout with
  | true => simp
  | false =>
    -- A name is never the same name behind `&`.
    have hLonger : forwardedName index p ≠ "&" ++ forwardedName index p := by
      intro hSame
      have hLength := congrArg String.length hSame
      rw [String.length_append] at hLength
      exact absurd hLength (by simp)
    simp [hLonger]

theorem calls_slot (dep : Dependency) (slot : Slot) {s : FunctionSignature}
    (hNames : ∀ p ∈ s.parameters, p.internalName ≠ some "_") :
    Calls (dep.forwardingFunction slot s) slot.property
      (s.parameters.map (slotElement s)) (slotResult s) s.isAsync s.isThrowing
      (mapIndexed argumentText s.parameters) (forwardingCall slot s).cast where
  body := by
    rw [Dependency.forwardingFunction, ForwardingCall.render, forwardingCall, mapIndexed,
      mapIndexed, List.map_map]
    rfl
  count := by simp [mapIndexed]
  named := forall₂_mapIndexed fun p hMem index => names_argumentText (hNames p hMem) index
  inPlace := by
    intro hDemands
    rw [Dependency.forwardingFunction, zip_mapIndexed]
    exact forall₂_mapIndexed fun p hMem index =>
      passedAsTaken_argumentText hDemands (hNames p hMem) index
  cast_declared := by
    rw [forwardingCall, Dependency.forwardingFunction]
    cases hResult : s.result with
    | none => exact .inl rfl
    | some declared =>
      cases hMentions : declared.mentions s.genericNames with
      | true => exact .inr (Option.filter_some_pos hMentions)
      | false => exact .inl (Option.filter_some_neg hMentions)
  cast_back := by
    intro declared hDeclared hDiffers
    have hResult : s.result = some declared := hDeclared
    have hMentions : declared.mentions s.genericNames = true := by
      by_contra hFree
      -- What mentions no generic parameter is stored as it is declared.
      apply hDiffers
      rw [slotResult, hResult, Option.getD_some]
      exact TypeRef.substitute_eq_self (fun name => (erasing_eq_none_iff s name).mpr) declared
        (Bool.eq_false_iff.mpr hFree)
    rw [forwardingCall, hResult]
    exact Option.filter_some_pos hMentions

/-- The member of a mock that stands for a function forwards to a closure of the type of its
slot. -/
theorem forwardingMember_forwardsTo_slot {attachment : Option Position} {d : Decl}
    {dep : Dependency} (h : Dependency.ofDecl attachment d = .ok dep) {slot : Slot}
    (hSlot : slot ∈ dep.slots) {s : FunctionSignature} (hFunction : slot.signature = .function s) :
    ∃ f, dep.forwardingMember slot = .function f ∧
      ForwardsTo f slot.property (slotType slot.signature) := by
  obtain ⟨declared, rfl⟩ := exists_function_of_slot h hSlot hFunction
  have hNames : ∀ p ∈ (Signature.ofFunction declared).parameters, p.internalName ≠ some "_" := by
    intro p hMem
    obtain ⟨parameter, _, rfl⟩ := List.mem_map.mp hMem
    exact internalName_ne_underscore parameter
  refine ⟨dep.forwardingFunction slot (Signature.ofFunction declared), ?_, ?_⟩
  · rw [Dependency.forwardingMember, hFunction]
  · rw [hFunction]
    exact ⟨_, _, _, _, _, _, _, slotType_function _, calls_slot dep slot hNames⟩

/-! ## A function with parameters of several kinds -/

/-- `func merge<Item: Hashable>(_ items: inout [Item], with _: Item...) async throws -> Item?` -/
def merge : FunctionDecl :=
  ⟨"merge", [⟨"_", .attributed ["inout"] (.array (.named "Item" [])), some "items", false, none, []⟩,
    ⟨"with", .named "Item" [], some "_", true, none, []⟩], ⟨true, some "throws", none⟩,
    some (.optional (.named "Item" []) false), [⟨"Item", some (.named "Hashable" [])⟩], none, none,
    [], [], none⟩

def mergeSlot : Slot := ⟨"merge", .function (Signature.ofFunction merge)⟩

def store : Decl :=
  .type ⟨.structType, "Store", [], [], none, [], [], none⟩ [.function merge]

def storeDependency : Dependency := ⟨"Store", .value, false, false, [mergeSlot]⟩

theorem forwardingMember_forwardsTo_slot_store :
    Dependency.ofDecl none store = .ok storeDependency ∧ mergeSlot ∈ storeDependency.slots ∧
      ∃ f, storeDependency.forwardingMember mergeSlot = .function f ∧
        ForwardsTo f "_merge" (slotType mergeSlot.signature) := by
  have hStore : Dependency.ofDecl none store = .ok storeDependency := rfl
  have hSlot : mergeSlot ∈ storeDependency.slots := List.mem_singleton.mpr rfl
  exact ⟨hStore, hSlot, forwardingMember_forwardsTo_slot hStore hSlot rfl⟩

example : (forwardingCall mergeSlot (Signature.ofFunction merge)).render =
    "try await _merge(&items, arg1) as! Item?" := by decide

end SwiftDerive.Mock
