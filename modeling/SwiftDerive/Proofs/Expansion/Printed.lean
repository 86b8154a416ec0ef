import SwiftDerive.Proofs.Expansion.Given
import SwiftDerive.Proofs.Layout.Printed

/-! # Printing an expanded file

The bodies that the built-in generators write are raw text and switches over raw text. So an expanded
file can be printed as soon as the statements of its input can.
-/

namespace SwiftDerive

set_option autoImplicit false

namespace TaggedUnion

theorem prints_namesEnum (name : String) (names : List String) (conformance : String)
    (modifiers : List String) : (namesEnum name names conformance modifiers).Prints :=
  Decl.prints_type _ fun m hMem => by
    obtain rfl := List.mem_singleton.mp hMem
    exact Decl.prints_of_bodies (List.forall_mem_nil _) (List.forall_mem_nil _)

theorem prints_encodeDecl (o : Outline) : (Decl.function o.encodeDecl).Prints := by
  refine Decl.prints_of_bodies (fun body hBody => ?_) (List.forall_mem_nil _)
  obtain rfl := List.mem_singleton.mp hBody
  refine Statement.prints_block fun s hMem => ?_
  rcases List.mem_pair.mp hMem with rfl | rfl
  · exact Statement.prints_raw _
  · refine Statement.prints_branch _ (List.forall_mem_map.mpr fun b _ => ?_)
    exact List.forall_mem_map.mpr fun _ _ => Statement.prints_raw _

theorem prints_decodeDecl (o : Outline) : (Decl.initializer o.decodeDecl).Prints := by
  refine Decl.prints_of_bodies (fun body hBody => ?_) (List.forall_mem_nil _)
  obtain rfl := List.mem_singleton.mp hBody
  refine Statement.prints_block fun s hMem => ?_
  rcases List.mem_cons.mp hMem with rfl | hMem
  · exact Statement.prints_raw _
  rcases List.mem_pair.mp hMem with rfl | rfl
  · exact Statement.prints_raw _
  · refine Statement.prints_branch _ (List.forall_mem_map.mpr fun b _ => ?_)
    refine List.forall_mem_append.mpr ⟨?_, ?_⟩
    · exact List.forall_mem_map.mpr fun _ _ => Statement.prints_raw _
    · exact List.forall_mem_singleton.mpr (Statement.prints_raw _)

theorem prints_generate {d : Decl} {ms : List Decl} (h : (generate d).outcome = .ok ms) :
    ∀ m ∈ ms, m.Prints := by
  intro m hMem
  rcases mem_generate h hMem with ⟨_, _, _, _, rfl⟩ | ⟨o, rfl | rfl⟩
  · exact prints_namesEnum _ _ _ _
  · exact prints_encodeDecl o
  · exact prints_decodeDecl o

end TaggedUnion

theorem Decl.prints_computedVariable (name : String) (type : TypeRef) {accessors : List Accessor}
    (attributes : List Attribute) (modifiers : List Modifier)
    (h : ∀ a ∈ accessors, ∀ s ∈ a.body, s.Prints) :
    (Decl.variable
      (Construct.computedVariable name type accessors attributes modifiers)).Prints := by
  refine Decl.prints_of_bodies (fun s hBody => ?_) (List.forall_mem_nil _)
  have hAccessors : s ∈ accessors.filterMap Accessor.body := by
    simpa [Decl.bodies, Construct.computedVariable, Construct.singleBinding, Binding.bodies,
      AccessorBlock.bodies] using hBody
  obtain ⟨a, hMem, hOwn⟩ := List.mem_filterMap.mp hAccessors
  exact h a hMem s hOwn

theorem Requirement.prints_ofSignature (excluded : List String) (s : Signature) :
    (Requirement.ofSignature excluded s).Prints := by
  cases s with
  | function s => exact Decl.prints_of_bodies (List.forall_mem_nil _) (List.forall_mem_nil _)
  | property s =>
    refine Decl.prints_computedVariable _ _ _ _ fun a hMem => ?_
    have hBody : a.body = none := by
      split at hMem
      · rw [List.mem_singleton.mp hMem]
        rfl
      · rcases List.mem_pair.mp hMem with rfl | rfl <;> rfl
    rw [hBody]
    nofun

namespace Mock.Dependency

theorem prints_slotVariable (slot : Slot) : (slotVariable slot).Prints :=
  Decl.prints_of_bodies (List.forall_mem_nil _) (List.forall_mem_nil _)

theorem prints_forwardingMember (dep : Dependency) (slot : Slot) :
    (dep.forwardingMember slot).Prints := by
  obtain ⟨name, signature⟩ := slot
  cases signature with
  | function s =>
    refine Decl.prints_of_bodies (fun body hBody => ?_) (List.forall_mem_nil _)
    obtain rfl := List.mem_singleton.mp hBody
    exact Statement.prints_codeOf _
  | property s =>
    refine Decl.prints_computedVariable _ _ _ _ fun a hMem => ?_
    have hBody : ∃ texts, a.body = some (Construct.codeOf texts) := by
      split at hMem
      · rw [List.mem_singleton.mp hMem]
        exact ⟨_, rfl⟩
      · rcases List.mem_pair.mp hMem with rfl | rfl <;> exact ⟨_, rfl⟩
    obtain ⟨texts, hBody⟩ := hBody
    rw [hBody]
    exact fun s hOwn => Option.mem_some.mp hOwn ▸ Statement.prints_codeOf texts

theorem prints_initializer (dep : Dependency) : (Decl.initializer dep.initializer).Prints := by
  refine Decl.prints_of_bodies (fun body hBody => ?_) (List.forall_mem_nil _)
  obtain rfl := List.mem_singleton.mp hBody
  exact Statement.prints_codeOf _

theorem prints_artifacts (dep : Dependency) : ∀ x ∈ dep.artifacts, x.Prints := by
  intro x hMem
  rcases List.mem_pair.mp hMem with rfl | rfl
  · exact Decl.prints_type _ (List.forall_mem_map.mpr fun slot _ =>
      Requirement.prints_ofSignature _ _)
  · refine Decl.prints_type _ (List.forall_mem_append.mpr ⟨?_, ?_⟩)
    · refine List.forall_mem_flatMap.mpr fun slot _ => List.forall_mem_cons.mpr ⟨?_, ?_⟩
      · exact prints_slotVariable slot
      · exact List.forall_mem_singleton.mpr (dep.prints_forwardingMember slot)
    · exact List.forall_mem_singleton.mpr dep.prints_initializer

end Mock.Dependency

namespace Registry

theorem prints_yield_builtIn {name : String} {g : Generator} (hName : builtIn name = some g)
    (a : Attribute) (d : Decl) :
    ∀ x ∈ (g.run a d).yield.members ++ (g.run a d).yield.peers, x.Prints := by
  intro x hMem
  rcases mem_yield_builtIn hName hMem with ⟨dependency, _, hArtifact⟩ | ⟨ms, hGiven, hMember⟩
  · exact dependency.prints_artifacts x hArtifact
  · exact TaggedUnion.prints_generate hGiven x hMember

theorem prints_withMembers_strip (registry : Registry) {d : Decl} (hBodies : ∀ s ∈ d.bodies, s.Prints)
    {ms : List Decl} (hMembers : ∀ m ∈ ms, m.Prints) :
    ((registry.strip d).withMembers ms).Prints := by
  have hStripped : ∀ s ∈ (registry.strip d).bodies, s.Prints := by
    rwa [strip, Decl.bodies_withAttributes]
  match d with
  | .type header _ => exact Decl.prints_type _ hMembers
  | .function _ | .initializer _ | .variable _ | .enumCase _ | .raw _ _ | .statement _ | .file _ =>
    exact Decl.prints_of_bodies hStripped (List.forall_mem_nil _)

theorem prints_expandFile {ds : List Decl} (h : ∀ d ∈ ds, d.PrintsThroughout) :
    ∀ x ∈ (builtIn.expandFile ds).decls, x.Prints := by
  refine builtIn.forall_decls_expandFile (fun d hMem path scope inner hHolds ms hMembers => ?_)
    (fun d _ s hSite => ?_) fun _ _ _ => Decl.prints_type _ (List.forall_mem_nil _)
  · exact builtIn.prints_withMembers_strip (h d hMem path scope inner hHolds) hMembers
  · obtain ⟨_, _, hName⟩ := (builtIn.mem_sites_iff d s).mp hSite
    exact prints_yield_builtIn hName _ _

theorem exists_render_expandFile {ds : List Decl} (h : ∀ d ∈ ds, d.PrintsThroughout) :
    ∃ text, (SourceFile.mk (builtIn.expandFile ds).decls).render = .ok text :=
  SourceFile.exists_render (prints_expandFile h)

end Registry

end SwiftDerive
