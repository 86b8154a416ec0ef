import SwiftDerive.Proofs.Expansion.Extensions

/-! # What stands in an expanded file

An expanded file has the declarations of the input with members added, what the generators give, and
extensions. So what holds of these, and of a type whenever it holds of its members, holds of the whole
file.
-/

namespace SwiftDerive

set_option autoImplicit false

namespace Decl

def withMembers (members : List Decl) : Decl → Decl
  | .type header _ => .type header members
  | d => d

end Decl

theorem TaggedUnion.mem_generate {d m : Decl} {ms : List Decl} (h : (generate d).outcome = .ok ms)
    (hMem : m ∈ ms) :
    (∃ name names conformance modifiers, m = namesEnum name names conformance modifiers) ∨
      ∃ o : Outline, m = .function o.encodeDecl ∨ m = .initializer o.decodeDecl := by
  match d with
  | .type header members =>
    rw [generate] at h
    split at h
    · cases h
      simp only [Outline.members, List.mem_cons, List.not_mem_nil, or_false] at hMem
      rcases hMem with rfl | rfl | rfl | rfl
      · exact .inl ⟨_, _, _, _, rfl⟩
      · exact .inl ⟨_, _, _, _, rfl⟩
      · exact .inr ⟨_, .inl rfl⟩
      · exact .inr ⟨_, .inr rfl⟩
    · cases h
      cases hMem
  | .function _ | .initializer _ | .variable _ | .enumCase _ | .raw _ _ | .statement _ | .file _ =>
    cases h
    cases hMem

theorem Generator.mem_yield_run {g : Generator} {a : Attribute} {d x : Decl}
    (h : x ∈ (g.run a d).yield.members ++ (g.run a d).yield.peers) :
    (∃ ms, (g.members a d).outcome = .ok ms ∧ x ∈ ms) ∨
      ∃ ps, (g.peers a d).outcome = .ok ps ∧ x ∈ ps := by
  simp only [run, bind, Reporting.andThen, Reporting.yield] at h
  cases hMembers : (g.members a d).outcome with
  | error _ => simp [hMembers] at h
  | ok ms =>
    cases hPeers : (g.peers a d).outcome with
    | error _ => simp [hMembers, hPeers] at h
    | ok ps =>
      cases hConformances : (g.conformances a d).outcome with
      | error _ => simp [hMembers, hPeers, hConformances] at h
      | ok cs =>
        simp only [hMembers, hPeers, hConformances, pure, Reporting.result, List.mem_append] at h
        exact h.imp (fun hMem => ⟨ms, rfl, hMem⟩) fun hMem => ⟨ps, rfl, hMem⟩

namespace Registry

theorem builtIn_eq_some {name : String} {g : Generator} (h : builtIn name = some g) :
    g = .autoDependency ∨ g = .enumCodable := by
  unfold builtIn at h
  split at h
  · exact .inl (Option.some.inj h).symm
  · exact .inr (Option.some.inj h).symm
  · cases h

theorem mem_yield_builtIn {name : String} {g : Generator} (hName : builtIn name = some g)
    {a : Attribute} {d x : Decl} (h : x ∈ (g.run a d).yield.members ++ (g.run a d).yield.peers) :
    (∃ dependency, Mock.Dependency.ofDecl a.position d = .ok dependency ∧ x ∈ dependency.artifacts) ∨
      ∃ ms, (TaggedUnion.generate d).outcome = .ok ms ∧ x ∈ ms := by
  rcases builtIn_eq_some hName with rfl | rfl
  · rcases Generator.mem_yield_run h with ⟨ms, hGiven, hMem⟩ | ⟨ps, hGiven, hMem⟩
    · cases hGiven
      cases hMem
    · cases hDependency : Mock.Dependency.ofDecl a.position d with
      | error problem =>
        simp [Generator.autoDependency, Reporting.dependency, hDependency, bind, Reporting.andThen,
          Reporting.abort] at hGiven
      | ok dependency =>
        simp only [Generator.autoDependency, Reporting.dependency, hDependency, bind, pure,
          Reporting.andThen, Reporting.result, Except.ok.injEq] at hGiven
        exact .inl ⟨dependency, rfl, hGiven ▸ hMem⟩
  · rcases Generator.mem_yield_run h with hMembers | ⟨ps, hGiven, hMem⟩
    · exact .inr hMembers
    · cases hGiven
      cases hMem

variable (registry : Registry)

theorem members_additions_sites (scope : List String) (d : Decl) :
    (registry.additions scope d).members =
      (registry.sitesAt d).flatMap fun s => (registry.runAt s).yield.members := by
  rw [additions_eq_sum, Additions.part_sum Additions.members rfl (fun _ _ => rfl),
    List.flatMap_map]
  exact List.flatMap_congr fun s _ => by rw [addedBy, Additions.ofRun_eq_yield]

theorem peers_additions_sites (scope : List String) (d : Decl) :
    (registry.additions scope d).peers =
      (registry.sitesAt d).flatMap fun s => (registry.runAt s).yield.peers := by
  rw [additions_eq_sum, Additions.part_sum Additions.peers rfl (fun _ _ => rfl),
    List.flatMap_map]
  exact List.flatMap_congr fun s _ => by rw [addedBy, Additions.ofRun_eq_yield]

theorem decls_attach (scope : List String) (d : Decl) (inner : Expansion) :
    (registry.attach scope d inner).decls =
      (registry.strip d).withMembers (inner.decls ++ (registry.additions scope d).members) ::
        (registry.additions scope d).peers := by
  cases d <;> rfl

section Everywhere

variable {P : Decl → Prop}

theorem forall_decls_expandMembers {scope : List String} {ms : List Decl}
    (h : ∀ m ∈ ms, ∀ x ∈ (registry.expandDecl scope m).decls, P x) :
    ∀ x ∈ (registry.expandMembers scope ms).decls, P x := by
  induction ms with
  | nil => exact List.forall_mem_nil _
  | cons m ms ih =>
    obtain ⟨hHead, hTail⟩ := List.forall_mem_cons.mp h
    exact List.forall_mem_append.mpr ⟨hHead, ih hTail⟩

/-- What holds of every declaration once it holds of its new members, and of all that is given, holds of
what stands for a declaration. -/
theorem forall_decls_expandDecl {d : Decl}
    (hKept : ∀ path scope inner, d.Holds path scope inner → ∀ ms, (∀ m ∈ ms, P m) →
      P ((registry.strip inner).withMembers ms))
    (hGiven : ∀ s ∈ registry.sites d,
      ∀ x ∈ (registry.runAt s).yield.members ++ (registry.runAt s).yield.peers, P x)
    (scope : List String) : ∀ x ∈ (registry.expandDecl scope d).decls, P x := by
  induction d using Decl.members_induction generalizing scope with
  | step d ih =>
    have hOwn : ∀ s ∈ registry.sitesAt d,
        (∀ x ∈ (registry.runAt s).yield.members, P x) ∧ ∀ x ∈ (registry.runAt s).yield.peers, P x := by
      intro s hSite
      refine List.forall_mem_append.mp (hGiven s ?_)
      rw [sites_eq]
      exact List.mem_append_right _ hSite
    have hInner : ∀ m ∈ d.members, ∀ x ∈ (registry.expandDecl (scope ++ [d.name]) m).decls, P x := by
      intro m hMem
      obtain ⟨i, hMember⟩ := List.mem_iff_getElem?.mp hMem
      refine ih m hMem (fun path inside inner hHolds => ?_) (fun s hSite => ?_) _
      · exact hKept _ _ inner (.member hMember hHolds)
      · exact hGiven ((s.below i).inside d.name) (registry.site_of_member hMember hSite)
    rw [expandDecl_eq, decls_attach, members_additions_sites, peers_additions_sites]
    refine List.forall_mem_cons.mpr ⟨hKept [] [] d (.itself d) _ ?_, ?_⟩
    · exact List.forall_mem_append.mpr ⟨registry.forall_decls_expandMembers hInner,
        List.forall_mem_flatMap.mpr fun s hSite => (hOwn s hSite).left⟩
    · exact List.forall_mem_flatMap.mpr fun s hSite => (hOwn s hSite).right

theorem forall_decls_expandFile {ds : List Decl}
    (hKept : ∀ d ∈ ds, ∀ path scope inner, d.Holds path scope inner → ∀ ms, (∀ m ∈ ms, P m) →
      P ((registry.strip inner).withMembers ms))
    (hGiven : ∀ d ∈ ds, ∀ s ∈ registry.sites d,
      ∀ x ∈ (registry.runAt s).yield.members ++ (registry.runAt s).yield.peers, P x)
    (hExtension : ∀ name type whereClause, P (Construct.conformanceExtension name type whereClause)) :
    ∀ x ∈ (registry.expandFile ds).decls, P x := by
  rw [decls_expandFile]
  refine List.forall_mem_flatMap.mpr fun d hDecl => List.forall_mem_append.mpr ⟨?_, ?_⟩
  · exact registry.forall_decls_expandDecl (hKept d hDecl) (hGiven d hDecl) []
  · rw [extensions_expandDecl]
    refine List.forall_mem_flatMap.mpr fun s _ => List.forall_mem_map.mpr fun c _ => ?_
    exact hExtension _ _ _

end Everywhere

end Registry

end SwiftDerive
