import SwiftDerive.Proofs.Nesting
import SwiftDerive.Syntax.Layout

/-! # What can be printed

A declaration has a printed form as soon as the statements in it do, whatever its headers say; raw text
always has one.
-/

namespace SwiftDerive

set_option autoImplicit false

def Statement.Prints (s : Statement) : Prop := ∀ depth, ∃ lines, s.lines depth = .ok lines

def Decl.Prints (d : Decl) : Prop := ∀ depth, ∃ lines, d.lines depth = .ok lines

namespace Statement

theorem prints_raw (text : String) : (raw text).Prints := fun depth =>
  ⟨_, by rw [Statement.lines]⟩

theorem exists_linesAll {ss : List Statement} (h : ∀ s ∈ ss, s.Prints) (depth : Nat) :
    ∃ lines, Statement.linesAll depth ss = .ok lines := by
  induction ss with
  | nil => exact ⟨_, by rw [Statement.linesAll]⟩
  | cons s ss ih =>
    obtain ⟨hHead, hTail⟩ := List.forall_mem_cons.mp h
    obtain ⟨first, hFirst⟩ := hHead depth
    obtain ⟨rest, hRest⟩ := ih hTail
    exact ⟨_, by rw [Statement.linesAll, hFirst, hRest]; rfl⟩

theorem prints_block {ss : List Statement} (h : ∀ s ∈ ss, s.Prints) : (block ss).Prints :=
  fun depth => by
    rw [Statement.lines]
    exact exists_linesAll h depth

theorem prints_codeOf (texts : List String) : (Construct.codeOf texts).Prints :=
  prints_block (List.forall_mem_map.mpr fun text _ => prints_raw text)

theorem exists_casesLines {cases : List SwitchCase} (h : ∀ c ∈ cases, ∀ s ∈ c.statements, s.Prints)
    (depth : Nat) : ∃ lines, SwitchCase.linesAll depth cases = .ok lines := by
  induction cases with
  | nil => exact ⟨_, by rw [SwitchCase.linesAll]⟩
  | cons c cases ih =>
    obtain ⟨hHead, hTail⟩ := List.forall_mem_cons.mp h
    obtain ⟨inner, hInner⟩ := exists_linesAll hHead (depth + 1)
    obtain ⟨rest, hRest⟩ := ih hTail
    obtain ⟨label, statements⟩ := c
    exact ⟨_, by rw [SwitchCase.linesAll, hInner, hRest]; rfl⟩

theorem prints_branch (subject : String) {cases : List SwitchCase}
    (h : ∀ c ∈ cases, ∀ s ∈ c.statements, s.Prints) : (branch subject cases).Prints := fun depth => by
  obtain ⟨inner, hInner⟩ := exists_casesLines h depth
  exact ⟨_, by rw [Statement.lines, hInner]; rfl⟩

theorem exists_bodyLines {body : Option Statement} (h : ∀ s ∈ body, s.Prints) (depth : Nat)
    (header : String) : ∃ lines, Statement.bodyLines depth header body = .ok lines := by
  cases body with
  | none => exact ⟨_, by rw [Statement.bodyLines]⟩
  | some s =>
    obtain ⟨inner, hInner⟩ := h s rfl (depth + 1)
    exact ⟨_, by rw [Statement.bodyLines, hInner]; rfl⟩

end Statement

/-! ## Properties -/

def AccessorBlock.bodies (block : AccessorBlock) : List Statement :=
  block.implicitGetter.toList ++ block.accessors.filterMap Accessor.body

def Binding.bodies (b : Binding) : List Statement :=
  (b.accessorBlock.map AccessorBlock.bodies).getD []

theorem Accessor.exists_linesAll {accessors : List Accessor}
    (h : ∀ s ∈ accessors.filterMap Accessor.body, s.Prints) (depth : Nat) :
    ∃ lines, Accessor.linesAll depth accessors = .ok lines := by
  induction accessors with
  | nil => exact ⟨_, by rw [Accessor.linesAll]⟩
  | cons a accessors ih =>
    have hHead : ∀ s ∈ a.body, s.Prints := fun s hBody =>
      h s (List.mem_filterMap.mpr ⟨a, List.mem_cons_self, hBody⟩)
    have hTail : ∀ s ∈ accessors.filterMap Accessor.body, s.Prints := fun s hMem =>
      h s ((List.Sublist.filterMap _ (List.sublist_cons_self a accessors)).subset hMem)
    obtain ⟨first, hFirst⟩ := Statement.exists_bodyLines hHead depth a.head
    obtain ⟨rest, hRest⟩ := ih hTail
    obtain ⟨kind, effects, body, parameter, modifiers⟩ := a
    exact ⟨_, by rw [Accessor.linesAll, hFirst, hRest]; rfl⟩

theorem AccessorBlock.exists_lines {block : Option AccessorBlock}
    (h : ∀ s ∈ (block.map AccessorBlock.bodies).getD [], s.Prints) (depth : Nat) (head : String) :
    ∃ lines, AccessorBlock.lines depth head block = .ok lines := by
  cases block with
  | none => exact ⟨_, by rw [AccessorBlock.lines]⟩
  | some block =>
    obtain ⟨hGetter, hAccessors⟩ := List.forall_mem_append.mp h
    obtain ⟨accessors, getter⟩ := block
    cases getter with
    | some getter =>
      obtain ⟨inner, hInner⟩ := hGetter getter List.mem_cons_self (depth + 1)
      exact ⟨_, by rw [AccessorBlock.lines, hInner]; rfl⟩
    | none =>
      obtain ⟨inner, hInner⟩ := Accessor.exists_linesAll hAccessors (depth + 1)
      rw [AccessorBlock.lines, hInner]
      split <;> exact ⟨_, rfl⟩

theorem Binding.exists_lines {bindings : List Binding}
    (h : ∀ s ∈ bindings.flatMap Binding.bodies, s.Prints) (depth : Nat) (header : String) :
    ∃ lines, Binding.lines depth header bindings = .ok lines := by
  rw [Binding.lines.eq_def]
  split
  · exact AccessorBlock.exists_lines (by simpa [Binding.bodies] using h) depth _
  · exact ⟨_, rfl⟩

/-! ## Declarations -/

namespace Decl

/-- The statements of a declaration apart from those in its members; the declarations of a file stand in
it as statements. -/
def bodies : Decl → List Statement
  | .function f => f.body.toList
  | .initializer i => i.body.toList
  | .variable v => v.bindings.flatMap Binding.bodies
  | .enumCase _ | .type _ _ | .raw _ _ => []
  | .statement s => [s]
  | .file declarations => declarations.map Statement.decl

theorem bodies_withAttributes (attributes : List Attribute) (d : Decl) :
    (d.withAttributes attributes).bodies = d.bodies := by
  cases d <;> rfl

theorem exists_linesAll {ds : List Decl} (h : ∀ d ∈ ds, d.Prints) (depth : Nat) :
    ∃ lines, Decl.linesAll depth ds = .ok lines := by
  induction ds with
  | nil => exact ⟨_, by rw [Decl.linesAll]⟩
  | cons d ds ih =>
    obtain ⟨hHead, hTail⟩ := List.forall_mem_cons.mp h
    obtain ⟨first, hFirst⟩ := hHead depth
    obtain ⟨rest, hRest⟩ := ih hTail
    exact ⟨_, by rw [Decl.linesAll, hFirst, hRest]; rfl⟩

theorem exists_separatedLines {ds : List Decl} (h : ∀ d ∈ ds, d.Prints) (depth : Nat) :
    ∃ lines, Decl.separatedLines depth ds = .ok lines := by
  induction ds with
  | nil => exact ⟨_, by rw [Decl.separatedLines]⟩
  | cons d ds ih =>
    obtain ⟨hHead, hTail⟩ := List.forall_mem_cons.mp h
    obtain ⟨first, hFirst⟩ := hHead depth
    cases ds with
    | nil => exact ⟨first, by rw [Decl.separatedLines, hFirst]⟩
    | cons d' ds =>
      obtain ⟨rest, hRest⟩ := ih hTail
      exact ⟨_, by simp only [Decl.separatedLines, hFirst, hRest]; rfl⟩

/-- A declaration prints if its own statements and its members do. -/
theorem prints_of_bodies {d : Decl} (hBodies : ∀ s ∈ d.bodies, s.Prints)
    (hMembers : ∀ m ∈ d.members, m.Prints) : d.Prints := by
  intro depth
  cases d with
  | function f =>
    rw [Decl.lines, FunctionDecl.lines_eq]
    exact Statement.exists_bodyLines (fun s hBody => hBodies s (Option.mem_toList.mpr hBody)) depth _
  | initializer i =>
    rw [Decl.lines, InitializerDecl.lines_eq]
    exact Statement.exists_bodyLines (fun s hBody => hBodies s (Option.mem_toList.mpr hBody)) depth _
  | «variable» v =>
    rw [Decl.lines, VariableDecl.lines_eq]
    exact Binding.exists_lines hBodies depth _
  | enumCase c => exact ⟨_, by rw [Decl.lines]⟩
  | type header members =>
    obtain ⟨inner, hInner⟩ : ∃ inner, Decl.linesAll (depth + 1) members = .ok inner :=
      exists_linesAll hMembers (depth + 1)
    exact ⟨_, by rw [Decl.lines, hInner]; rfl⟩
  | raw text position => exact ⟨_, by rw [Decl.lines]⟩
  | statement s =>
    rw [Decl.lines]
    exact hBodies s List.mem_cons_self depth
  | file declarations =>
    rw [Decl.lines]
    refine exists_separatedLines (fun d hMem inner => ?_) depth
    have hPrints := hBodies (.decl d) (List.mem_map_of_mem hMem) inner
    rwa [Statement.lines] at hPrints

theorem prints_type (header : TypeHeader) {members : List Decl} (h : ∀ m ∈ members, m.Prints) :
    (Decl.type header members).Prints :=
  prints_of_bodies (List.forall_mem_nil _) h

def PrintsThroughout (d : Decl) : Prop :=
  ∀ path scope inner, d.Holds path scope inner → ∀ s ∈ inner.bodies, s.Prints

end Decl

theorem SourceFile.exists_render {file : SourceFile} (h : ∀ d ∈ file.declarations, d.Prints) :
    ∃ text, file.render = .ok text := by
  obtain ⟨lines, hLines⟩ := Decl.exists_separatedLines h 0
  exact ⟨_, by rw [SourceFile.render, SourceFile.lines, hLines]; rfl⟩

end SwiftDerive
