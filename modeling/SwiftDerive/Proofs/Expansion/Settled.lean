import SwiftDerive.Proofs.Expansion.Aborts
import SwiftDerive.Proofs.Expansion.Given
import SwiftDerive.Proofs.Mock.Dependency

/-! # Expanding an expanded file

A file without attributes of generators is kept by expansion. The built-in generators give no such
attribute, unless they copy one of a member; and a member with one is reported.
-/

namespace SwiftDerive

set_option autoImplicit false

namespace Decl

theorem withAttributes_self (d : Decl) : d.withAttributes d.attributes = d := by
  match d with
  | .function f | .initializer f | .variable f => cases f; rfl
  | .enumCase _ | .type _ _ | .raw _ _ | .statement _ | .file _ => rfl

theorem mem_of_mem_withAttributes {attributes : List Attribute} {d : Decl} {a : Attribute}
    (h : a ∈ (d.withAttributes attributes).attributes) : a ∈ attributes := by
  match d with
  | .function _ | .initializer _ | .variable _ | .enumCase _ | .type _ _ => exact h
  | .raw _ _ | .statement _ | .file _ => cases h

theorem members_withAttributes (attributes : List Attribute) (d : Decl) :
    (d.withAttributes attributes).members = d.members := by
  cases d <;> rfl

end Decl

namespace Registry

variable (registry : Registry)

/-- Neither the declaration nor one at any depth inside it has an attribute of a generator. -/
def Settled (d : Decl) : Prop :=
  ∀ path scope inner, d.Holds path scope inner → ∀ a ∈ inner.attributes, registry.names a = false

def Quiet (d : Decl) : Prop :=
  ∀ s ∈ registry.sites d, (registry.runAt s).diagnostics = []

theorem settled_iff (d : Decl) : registry.Settled d ↔
    (∀ a ∈ d.attributes, registry.names a = false) ∧ ∀ m ∈ d.members, registry.Settled m := by
  constructor
  · intro h
    refine ⟨h [] [] d (.itself d), ?_⟩
    intro m hMem path scope inner hInner
    obtain ⟨i, hMember⟩ := List.mem_iff_getElem?.mp hMem
    exact h _ _ inner (.member hMember hInner)
  · rintro ⟨hOwn, hMembers⟩ path scope inner hInner
    cases hInner with
    | itself => exact hOwn
    | member hMember hHolds => exact hMembers _ (List.mem_of_getElem? hMember) _ _ inner hHolds

theorem settled_of_bare {d : Decl} (hOwn : d.attributes = [])
    (hMembers : ∀ m ∈ d.members, registry.Settled m) : registry.Settled d := by
  refine (registry.settled_iff d).mpr ⟨?_, hMembers⟩
  rw [hOwn]
  exact List.forall_mem_nil _

theorem settled_of_leaf {d : Decl} (hOwn : ∀ a ∈ d.attributes, registry.names a = false)
    (hMembers : d.members = []) : registry.Settled d := by
  refine (registry.settled_iff d).mpr ⟨hOwn, ?_⟩
  rw [hMembers]
  exact List.forall_mem_nil _

/-! ## Expansion of settled declarations -/

theorem sitesAt_of_settled {d : Decl} (h : registry.Settled d) : registry.sitesAt d = [] := by
  rw [List.eq_nil_iff_forall_not_mem]
  intro s hMem
  obtain ⟨⟨_, _, rfl⟩, hAttached, hName⟩ := (registry.mem_sitesAt_iff d s).mp hMem
  have hOutside := ((registry.settled_iff s.decl).mp h).1 s.trigger (List.mem_of_getElem? hAttached)
  rw [names, hName] at hOutside
  cases hOutside

theorem strip_of_settled {d : Decl} (h : registry.Settled d) : registry.strip d = d := by
  have hKept : d.attributes.filter (fun a => !registry.names a) = d.attributes := by
    rw [List.filter_eq_self]
    intro a hMem
    rw [((registry.settled_iff d).mp h).1 a hMem]
    rfl
  rw [strip, hKept, Decl.withAttributes_self]

theorem expandDecl_of_settled {d : Decl} (h : registry.Settled d) (scope : List String) :
    registry.expandDecl scope d = ⟨[d], [], [], 0⟩ := by
  induction d using Decl.members_induction generalizing scope with
  | step d ih =>
    have hMembers := ((registry.settled_iff d).mp h).2
    have hInner : ∀ ms : List Decl, (∀ m ∈ ms, m ∈ d.members) →
        registry.expandMembers (scope ++ [d.name]) ms = ⟨ms, [], [], 0⟩ := by
      intro ms hSubset
      induction ms with
      | nil => rfl
      | cons m ms ihMembers =>
        obtain ⟨hHead, hTail⟩ := List.forall_mem_cons.mp hSubset
        rw [expandMembers, ih m hHead (hMembers m hHead), ihMembers hTail]
        rfl
    rw [expandDecl_eq, hInner d.members fun _ hMem => hMem, attach, additions_eq_sum,
      registry.sitesAt_of_settled h, registry.strip_of_settled h]
    cases d with
    | type header members =>
      exact congrArg (fun ms => Expansion.mk [.type header ms] [] [] 0) (List.append_nil members)
    | _ => rfl

/-- A file of settled declarations is expanded to itself. -/
theorem expandFile_of_settled {ds : List Decl} (h : ∀ d ∈ ds, registry.Settled d) :
    registry.expandFile ds = ⟨ds, [], [], 0⟩ := by
  induction ds with
  | nil => rfl
  | cons d ds ih =>
    obtain ⟨hHead, hTail⟩ := List.forall_mem_cons.mp h
    rw [expandFile, registry.expandDecl_of_settled hHead, ih hTail]
    rfl

/-! ## Quiet declarations -/

theorem quiet_member {d m : Decl} (h : registry.Quiet d) (hMem : m ∈ d.members) :
    registry.Quiet m := by
  intro s hSite
  obtain ⟨i, hMember⟩ := List.mem_iff_getElem?.mp hMem
  exact h ((s.below i).inside d.name) (registry.site_of_member hMember hSite)

theorem quiet_of_holds {d inner : Decl} {path : List Nat} {scope : List String}
    (h : registry.Quiet d) (hHolds : d.Holds path scope inner) : registry.Quiet inner := by
  induction hHolds with
  | itself => exact h
  | member hMember _ ih => exact ih (registry.quiet_member h (List.mem_of_getElem? hMember))

theorem quiet_of_diagnostics {ds : List Decl} (h : (registry.expandFile ds).diagnostics = []) :
    ∀ d ∈ ds, registry.Quiet d := by
  intro d hMem s hSite
  obtain ⟨i, hIndex⟩ := List.mem_iff_getElem?.mp hMem
  rw [diagnostics_expandFile, List.flatMap_eq_nil_iff] at h
  exact h (s.below i) ((registry.mem_sitesFrom_iff 0 ds _).mpr
    ⟨d, i, List.mem_zipIdx_iff_getElem?.mpr hIndex, s, hSite, rfl⟩)

/-! ## What expansion gives -/

theorem names_strip {d : Decl} {a : Attribute} (h : a ∈ (registry.strip d).attributes) :
    registry.names a = false := by
  have hKept := (List.mem_filter.mp (Decl.mem_of_mem_withAttributes h)).2
  simpa using hKept

theorem settled_withMembers_strip (d : Decl) {ms : List Decl} (h : ∀ m ∈ ms, registry.Settled m) :
    registry.Settled ((registry.strip d).withMembers ms) := by
  rw [settled_iff]
  cases d with
  | type header members =>
    exact ⟨fun a hAttached => registry.names_strip (d := .type header members) hAttached, h⟩
  | function d | initializer d | «variable» d | enumCase d =>
    exact ⟨fun a hAttached => registry.names_strip hAttached, List.forall_mem_nil _⟩
  | raw _ _ | statement _ | file _ => exact ⟨List.forall_mem_nil _, List.forall_mem_nil _⟩

theorem settled_expandFile {ds : List Decl} (hGiven : ∀ d ∈ ds, ∀ s ∈ registry.sites d,
      ∀ x ∈ (registry.runAt s).yield.members ++ (registry.runAt s).yield.peers,
        registry.Settled x) : ∀ x ∈ (registry.expandFile ds).decls, registry.Settled x := by
  refine registry.forall_decls_expandFile (fun _ _ _ _ inner _ ms hMembers => ?_) hGiven fun _ _ _ => ?_
  · exact registry.settled_withMembers_strip inner hMembers
  · exact registry.settled_of_leaf (List.forall_mem_nil _) rfl

/-! ## What the built-in generators give -/

theorem settled_namesEnum (name : String) (names : List String) (conformance : String)
    (modifiers : List String) :
    registry.Settled (TaggedUnion.namesEnum name names conformance modifiers) := by
  refine registry.settled_of_bare rfl fun m hMem => ?_
  obtain rfl := List.mem_singleton.mp hMem
  exact registry.settled_of_leaf (List.forall_mem_nil _) rfl

theorem settled_generate {d : Decl} {ms : List Decl} (h : (TaggedUnion.generate d).outcome = .ok ms) :
    ∀ m ∈ ms, registry.Settled m := by
  intro m hMem
  rcases TaggedUnion.mem_generate h hMem with ⟨_, _, _, _, rfl⟩ | ⟨_, rfl | rfl⟩
  · exact registry.settled_namesEnum _ _ _ _
  · exact registry.settled_of_leaf (List.forall_mem_nil _) rfl
  · exact registry.settled_of_leaf (List.forall_mem_nil _) rfl

theorem settled_requirement {s : Signature} (h : ∀ a ∈ s.attributes, registry.names a = false)
    (excluded : List String) : registry.Settled (Requirement.ofSignature excluded s) := by
  cases s with
  | function s => exact registry.settled_of_leaf h rfl
  | property s =>
    exact registry.settled_of_leaf (fun a hMem => h a (List.mem_of_mem_filter hMem)) rfl

theorem settled_forwardingMember (dep : Mock.Dependency) {slot : Mock.Slot}
    (h : ∀ a ∈ slot.signature.attributes, registry.names a = false) :
    registry.Settled (dep.forwardingMember slot) := by
  obtain ⟨name, signature⟩ := slot
  cases signature with
  | function s => exact registry.settled_of_leaf h rfl
  | property s => exact registry.settled_of_leaf (List.forall_mem_nil _) rfl

theorem settled_artifacts {attachment : Option Position} {d : Decl} {dep : Mock.Dependency}
    (hDependency : Mock.Dependency.ofDecl attachment d = .ok dep)
    (hMembers : ∀ m ∈ d.members, m.isCallable = true →
      ∀ a ∈ m.attributes, registry.names a = false) :
    ∀ x ∈ dep.artifacts, registry.Settled x := by
  have hSlots : ∀ slot ∈ dep.slots, ∀ a ∈ slot.signature.attributes, registry.names a = false := by
    intro slot hSlot
    obtain ⟨m, hMem, hSignature⟩ := Mock.exists_member_of_slot hDependency hSlot
    obtain ⟨hCallable, hAttributes⟩ := Signature.attributes_of_ofDecl hSignature
    rw [hAttributes]
    exact hMembers m hMem hCallable
  intro x hMem
  rcases List.mem_pair.mp hMem with rfl | rfl
  · refine registry.settled_of_bare rfl fun m hMember => ?_
    obtain ⟨slot, hSlot, rfl⟩ := List.mem_map.mp hMember
    exact registry.settled_requirement (hSlots slot hSlot) _
  · refine registry.settled_of_bare rfl fun m hMember => ?_
    rcases List.mem_append.mp hMember with hSlotMember | hLast
    · obtain ⟨slot, hSlot, hPair⟩ := List.mem_flatMap.mp hSlotMember
      rcases List.mem_pair.mp hPair with rfl | rfl
      · exact registry.settled_of_leaf (List.forall_mem_nil _) rfl
      · exact registry.settled_forwardingMember dep (hSlots slot hSlot)
    · obtain rfl := List.mem_singleton.mp hLast
      exact registry.settled_of_leaf (List.forall_mem_nil _) rfl

theorem diagnostics_run_ne_nil {g : Generator} {d : Decl} {name : String}
    (hName : builtIn name = some g) (hCallable : d.isCallable = true) (a : Attribute) :
    (g.run a d).diagnostics ≠ [] := by
  match d, hCallable with
  | .function _, _ | .variable _, _ =>
    rcases builtIn_eq_some hName with rfl | rfl
    · exact List.cons_ne_nil _ _
    · exact List.cons_ne_nil _ _

theorem isCallable_strip (d : Decl) : (registry.strip d).isCallable = d.isCallable := by
  cases d <;> rfl

theorem names_of_quiet {m : Decl} (hQuiet : builtIn.Quiet m) (hCallable : m.isCallable = true) :
    ∀ a ∈ m.attributes, builtIn.names a = false := by
  intro a hMem
  rw [names, Option.isSome_eq_false_iff, Option.isNone_iff_eq_none, Option.eq_none_iff_forall_ne_some]
  intro g hName
  obtain ⟨number, hAttached⟩ := List.mem_iff_getElem?.mp hMem
  have hSite := (builtIn.mem_sites_iff m ⟨[], [], m, number, a, g⟩).mpr
    ⟨.itself m, hAttached, hName⟩
  exact diagnostics_run_ne_nil hName ((isCallable_strip builtIn m).trans hCallable) a
    (hQuiet _ hSite)

theorem settled_yield {s : Site} (hName : builtIn s.trigger.name = some s.generator)
    (hQuiet : builtIn.Quiet s.decl) :
    ∀ x ∈ (builtIn.runAt s).yield.members ++ (builtIn.runAt s).yield.peers, builtIn.Settled x := by
  intro x hMem
  rcases mem_yield_builtIn hName hMem with ⟨dependency, hDependency, hArtifact⟩ | ⟨ms, hGiven, hMember⟩
  · refine builtIn.settled_artifacts hDependency (fun m hMem hCallable => ?_) x hArtifact
    rw [strip, Decl.members_withAttributes] at hMem
    exact names_of_quiet (builtIn.quiet_member hQuiet hMem) hCallable
  · exact builtIn.settled_generate hGiven x hMember

/-- When the built-in generators report nothing, the expanded file has none of their attributes at
any depth, and expanding it again changes nothing. -/
theorem expandFile_settles {ds : List Decl} (h : (builtIn.expandFile ds).diagnostics = []) :
    (∀ d ∈ (builtIn.expandFile ds).decls, ∀ path scope inner, d.Holds path scope inner →
        ∀ a ∈ inner.attributes, builtIn.names a = false) ∧
      builtIn.expandFile (builtIn.expandFile ds).decls =
        ⟨(builtIn.expandFile ds).decls, [], [], 0⟩ := by
  have hSettled : ∀ d ∈ (builtIn.expandFile ds).decls, builtIn.Settled d := by
    apply settled_expandFile
    intro d hMem s hSite
    obtain ⟨hHeld, _, hName⟩ := (builtIn.mem_sites_iff d s).mp hSite
    exact settled_yield hName (builtIn.quiet_of_holds (builtIn.quiet_of_diagnostics h d hMem) hHeld)
  exact ⟨hSettled, builtIn.expandFile_of_settled hSettled⟩

/-! ### A dependency with an attribute on a member and a codable enum inside -/

/-- `@AutoDependency struct Store` with `@MainActor func load() -> Data` and
`@EnumCodable enum Event { case opened(id: Int) }` -/
def annotatedStore : Decl :=
  .type ⟨.structType, "Store", [], [], none, [⟨"AutoDependency", none, none⟩], [], none⟩
    [.function ⟨"load", [], .empty, some (.named "Data" []), [], none, none,
        [⟨"MainActor", none, none⟩], [], none⟩,
      .type ⟨.enumType, "Event", [], [], none, [⟨"EnumCodable", none, none⟩], [], none⟩
        [.enumCase ⟨[⟨"opened", some [⟨.named "Int" [], some "id", none, none, none⟩], none, none⟩],
          [], [], none⟩]]

theorem expandFile_settles_store : (builtIn.expandFile [annotatedStore]).diagnostics = [] ∧
    (builtIn.expandFile [annotatedStore]).count = 2 ∧
    builtIn.expandFile (builtIn.expandFile [annotatedStore]).decls =
      ⟨(builtIn.expandFile [annotatedStore]).decls, [], [], 0⟩ := by
  have hQuiet : (builtIn.expandFile [annotatedStore]).diagnostics = [] := by decide +kernel
  exact ⟨hQuiet, by decide +kernel, (expandFile_settles hQuiet).2⟩

end Registry

end SwiftDerive
