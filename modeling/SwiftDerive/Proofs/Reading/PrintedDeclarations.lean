import SwiftDerive.Proofs.Layout.Printed
import SwiftDerive.Proofs.Reading.FormedTypes
import SwiftDerive.Proofs.Reading.Reported

/-! # Printing what was read

Every body that was read is a block of raw text, so that a declaration that was read can be printed.
-/

namespace SwiftDerive.Reading

set_option autoImplicit false

open Grammar Grammar.Node

variable (src : Source)

theorem prints_block (opening stop : Nat) : (src.block opening stop).Prints := by
  refine Statement.prints_block fun s hMem => ?_
  split at hMem
  · cases hMem
  · exact List.mem_singleton.mp hMem ▸ Statement.prints_raw _

theorem prints_bodyOf (n : Node) : ∀ s ∈ bodyOf src n, s.Prints := by
  intro s hBody
  obtain ⟨body, _, rfl⟩ := Option.map_eq_some_iff.mp hBody
  exact prints_block src _ _

theorem gives_any {α : Type} (x : Except ParseError α) : Gives (fun _ => True) x := by
  cases x <;> trivial

/-! ## Accessors and bindings -/

theorem printed_accessorOf (kind : String) (n : Node) :
    Gives (fun a => ∀ s ∈ a.body, s.Prints) (accessorOf src kind n) := by
  have hBody : ∀ s ∈ (n.children.find? (·.kind == "\x7b")).map fun brace =>
      src.block brace.start n.stop, s.Prints := by
    intro s hMem
    obtain ⟨brace, _, rfl⟩ := Option.map_eq_some_iff.mp hMem
    exact prints_block src _ _
  rw [accessorOf]
  dsimp only
  generalize (if isSpecifier n then some n else n.parts.find? isSpecifier) = specifier
  cases specifier with
  | none => exact hBody
  | some specifier => exact (gives_any (effectsOf src specifier)).bind fun effects _ => hBody

theorem printed_accessorBlockOf (n : Node) :
    Gives (fun block => ∀ s ∈ block.bodies, s.Prints) (accessorBlockOf src n) := by
  refine Meets.bind (Q := fun accessors => ∀ a ∈ accessors, ∀ s ∈ a.body, s.Prints)
    (Meets.mapM fun pair _ => printed_accessorOf src pair.1 pair.2) fun accessors hPrint => ?_
  split
  · exact List.forall_mem_singleton.mpr (prints_block src _ _)
  · intro s hMem
    obtain ⟨a, hAccessor, hBody⟩ := List.mem_filterMap.mp hMem
    exact hPrint a hAccessor s hBody

theorem printed_propertyStep {run : PropertyRun} (hRun : ∀ b ∈ run.bindings, ∀ s ∈ b.bodies, s.Prints)
    (n : Node) :
    Gives (fun run => ∀ b ∈ run.bindings, ∀ s ∈ b.bodies, s.Prints) (PropertyRun.step src run n) := by
  rw [PropertyRun.step]
  split
  · exact hRun
  · split
    · dsimp only
      generalize (patternKeyword? (src.collapsed n)).getD (run.keyword, src.collapsed n) = found
      intro b hMem
      rcases List.mem_append.mp hMem with hBefore | hNew
      · exact hRun b hBefore
      · rw [List.mem_singleton.mp hNew]
        exact List.forall_mem_nil _
    · split
      · exact hRun
      · split
        · exact (gives_any (annotationOf src n)).map fun type _ =>
            forall_mem_modifyLast hRun fun b hBodies => hBodies
        · split
          · exact (printed_accessorBlockOf src n).map fun block hBlock =>
              forall_mem_modifyLast hRun fun b _ => hBlock
          · split
            · exact hRun
            · exact forall_mem_modifyLast hRun fun b hBodies => hBodies

/-! ## Declarations -/

theorem printed_functionOf? (n : Node) :
    Gives (fun f => ∀ s ∈ f.body, s.Prints) (functionOf? src n) := by
  apply (gives_any (typesIn src n.children)).bind
  intro results _
  split
  · exact gives_error _
  · apply (gives_any (parametersOf src n)).bind
    intro parameters _
    apply (gives_any (effectsOf src n)).bind
    intro effects _
    apply (gives_any (genericParametersOf src n)).bind
    intro generics _
    apply (gives_any (whereClauseOf src n)).bind
    intro clause _
    exact prints_bodyOf src n

theorem printed_initializerOf (n : Node) :
    Gives (fun i => ∀ s ∈ i.body, s.Prints) (initializerOf src n) := by
  apply (gives_any (parametersOf src n)).bind
  intro parameters _
  apply (gives_any (effectsOf src n)).bind
  intro effects _
  apply (gives_any (genericParametersOf src n)).bind
  intro generics _
  apply (gives_any (whereClauseOf src n)).bind
  intro clause _
  exact prints_bodyOf src n

theorem printed_variableOf (n : Node) :
    Gives (fun v => ∀ b ∈ v.bindings, ∀ s ∈ b.bodies, s.Prints) (variableOf src n) := by
  have hRun : Gives (fun run => ∀ b ∈ run.bindings, ∀ s ∈ b.bodies, s.Prints)
      (n.children.foldlM (PropertyRun.step src) ⟨"var", []⟩) :=
    Meets.foldlM (fun c _ run hBefore => printed_propertyStep src hBefore c) (List.forall_mem_nil _)
  refine hRun.bind fun run hBindings => ?_
  split
  · exact gives_error _
  · exact hBindings

theorem printed_typeDeclOf (n : Node) (children : List ReadDecl) :
    Gives (fun d => d.bodies = []) (typeDeclOf src n children) := by
  apply (gives_any (children.foldlM (HeaderRun.step src) _)).bind
  intro run _
  split
  · exact rfl
  · exact gives_error _

theorem printed_declAt (n : Node) : Gives (fun d => ∀ s ∈ d.bodies, s.Prints) (declAt src n) := by
  have hType (children : List ReadDecl) :
      Gives (fun d => ∀ s ∈ d.bodies, s.Prints) (typeDeclOf src n children) :=
    (printed_typeDeclOf src n children).imp (fun _ _ => trivial) fun d hNone => by simp [hNone]
  rw [declAt, readDecl_eq]
  change Gives _ (declOf src n (readDecls src n.children))
  unfold declOf
  split
  · exact hType _
  · exact hType _
  · exact (printed_functionOf? src n).map fun f hBody s hMem => hBody s (Option.mem_toList.mp hMem)
  · exact (printed_functionOf? src n).map fun f hBody s hMem => hBody s (Option.mem_toList.mp hMem)
  · exact (printed_initializerOf src n).map fun i hBody s hMem => hBody s (Option.mem_toList.mp hMem)
  · exact (printed_variableOf src n).map fun v hBodies => List.forall_mem_flatMap.mpr hBodies
  · exact (printed_variableOf src n).map fun v hBodies => List.forall_mem_flatMap.mpr hBodies
  · exact (gives_any (caseOf src n)).map fun c _ => List.forall_mem_nil _
  · exact List.forall_mem_nil _

theorem printed_parseSourceFile {text : String} {tree : Node} {file : SourceFile}
    (hRead : parseSourceFile text tree = .ok file) : ∀ d ∈ file.declarations, d.PrintsThroughout := by
  intro d hMem path scope inner hHolds
  have hLocated := located_parseSourceFile text tree
  rw [hRead] at hLocated
  obtain ⟨n, -, hOwn, -⟩ := (hLocated d hMem path scope inner hHolds).own
  exact (printed_declAt (bare text) n).of_eq_ok hOwn

end SwiftDerive.Reading
