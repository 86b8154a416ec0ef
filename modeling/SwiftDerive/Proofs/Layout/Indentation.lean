import SwiftDerive.Syntax.Layout

/-! # Indentation of printed declarations

What is printed at a depth are the lines printed at depth zero, put further in; a node that cannot be
printed fails at every depth alike. A member of a type is therefore printed inside any nesting of types
as it is printed on its own.
-/

namespace SwiftDerive

set_option autoImplicit false

namespace Layout

/-- A line put further in by a number of depths; an empty line stays empty. -/
def indented (depth : Nat) (line : String) : String :=
  if line = "" then "" else indent depth ++ line

def shifted (depth : Nat) (printed : Except PrintError (List String)) :
    Except PrintError (List String) :=
  printed.map (List.map (indented depth))

/-! ## Lines -/

theorem indent_add (depth inner : Nat) : indent (depth + inner) = indent depth ++ indent inner := by
  simp only [indent, Nat.mul_add, ← List.replicate_append_replicate, String.ofList_append]

theorem append_ne_empty {front back : String} (h : back ≠ "") : front ++ back ≠ "" :=
  fun hEmpty => h (String.append_eq_empty_iff.mp hEmpty).2

theorem indented_of_ne_empty {line : String} (h : line ≠ "") (depth : Nat) :
    indented depth line = indent depth ++ line :=
  if_neg h

theorem indented_indent {text : String} (inner : Nat) (h : indent inner ++ text ≠ "") (depth : Nat) :
    indented depth (indent inner ++ text) = indent (depth + inner) ++ text := by
  rw [indented_of_ne_empty h, indent_add, String.append_assoc]

theorem indent_succ_append_ne_empty (inner : Nat) (text : String) : indent (inner + 1) ++ text ≠ "" := by
  rw [Nat.add_comm, indent_add]
  simp [show indent 1 ≠ "" by decide]

theorem map_textLines (depth inner : Nat) (text : String) :
    (textLines inner text).map (indented depth) = textLines (depth + inner) text := by
  rw [textLines, textLines, List.map_map]
  refine List.map_congr_left fun line _ => ?_
  cases hBlank : Text.isBlankText line with
  | true => simp [hBlank, indented]
  | false =>
    have hLine : String.ofList line ≠ "" := by
      intro hEmpty
      rw [String.ofList_eq_empty_iff.mp hEmpty] at hBlank
      cases hBlank
    simp [hBlank, indented_indent inner (append_ne_empty hLine)]

theorem map_braced (depth inner : Nat) (header : String) (lines : List String) :
    (braced inner header lines).map (indented depth) =
      braced (depth + inner) header (lines.map (indented depth)) := by
  have hOpen : header ++ " \x7b" ≠ "" := append_ne_empty (by decide)
  have hClose : "\x7d" ≠ "" := by decide
  simp only [braced, List.map_append, List.map_cons, List.map_nil, String.append_assoc,
    indented_indent inner (append_ne_empty hOpen), indented_indent inner (append_ne_empty hClose)]

theorem dropSpaces_indent (depth : Nat) (line : String) :
    dropSpaces (indent depth ++ line) = dropSpaces line := by
  have hSpaces : ∀ c ∈ List.replicate (4 * depth) ' ', (c == ' ') = true :=
    fun c hMem => beq_of_eq (List.eq_of_mem_replicate hMem)
  rw [dropSpaces, indent, String.toList_append, String.toList_ofList,
    List.dropWhile_append_of_pos hSpaces, dropSpaces]

/-! ## What was printed -/

section

variable (depth : Nat)

theorem shifted_ok (lines : List String) :
    shifted depth (.ok lines) = .ok (lines.map (indented depth)) := rfl

theorem shifted_line {inner : Nat} {text : String} (h : indent inner ++ text ≠ "") :
    shifted depth (.ok [indent inner ++ text]) = .ok [indent (depth + inner) ++ text] := by
  rw [shifted_ok, List.map_singleton, indented_indent inner h]

theorem shifted_bind (printed : Except PrintError (List String))
    {compose composeIn : List String → Except PrintError (List String)}
    (h : ∀ lines, composeIn (lines.map (indented depth)) = shifted depth (compose lines)) :
    shifted depth printed >>= composeIn = shifted depth (printed >>= compose) := by
  cases printed with
  | error e => rfl
  | ok lines => exact h lines

theorem shifted_braced (inner : Nat) (header : String) (printed : Except PrintError (List String)) :
    (do return braced (depth + inner) header (← shifted depth printed)) =
      shifted depth (do return braced inner header (← printed)) :=
  shifted_bind depth printed fun lines => congrArg Except.ok (map_braced depth inner header lines).symm

theorem shifted_append (first rest : Except PrintError (List String)) :
    (do
      let first ← shifted depth first
      let rest ← shifted depth rest
      return first ++ rest) =
    shifted depth (do
      let first ← first
      let rest ← rest
      return first ++ rest) :=
  shifted_bind depth first fun _ => shifted_bind depth rest fun _ =>
    congrArg Except.ok List.map_append.symm

end

end Layout

open Layout

/-! ## Headers -/

theorem FunctionDecl.head_ne_empty (d : FunctionDecl) : d.head ≠ "" := by
  simp [FunctionDecl.head]

theorem InitializerDecl.head_ne_empty (d : InitializerDecl) : d.head ≠ "" := by
  simp [InitializerDecl.head]

theorem VariableDecl.header_ne_empty (d : VariableDecl) : d.header ≠ "" := by
  simp [VariableDecl.header]

theorem CaseDecl.line_ne_empty (d : CaseDecl) : d.line ≠ "" := by
  simp [CaseDecl.line]

/-! ## Declarations and statements -/

theorem Binding.lines_several {bindings : List Binding} (h : ∀ b, bindings ≠ [b]) (depth : Nat)
    (header : String) :
    Binding.lines depth header bindings =
      .ok [indent depth ++ header ++ commaSeparated (bindings.map Binding.head)] := by
  rw [Binding.lines]
  exact fun _ _ _ _ => h _

theorem Binding.several_lines_add (depth inner : Nat) {header : String} (hHeader : header ≠ "")
    {bindings : List Binding} (h : ∀ b, bindings ≠ [b]) :
    Binding.lines (depth + inner) header bindings =
      shifted depth (Binding.lines inner header bindings) := by
  rw [Binding.lines_several h, Binding.lines_several h, String.append_assoc, String.append_assoc]
  exact (shifted_line depth (by simp [hHeader])).symm

mutual

theorem Statement.lines_add (depth inner : Nat) : (s : Statement) →
    s.lines (depth + inner) = shifted depth (s.lines inner)
  | .raw text => by
    simp only [Statement.lines, shifted_ok, map_textLines]
  | .branch subject cases => by
    simp only [Statement.lines, SwitchCase.linesAll_add depth inner cases]
    exact shifted_braced depth inner _ _
  | .block statements => by
    simp only [Statement.lines]
    exact Statement.linesAll_add depth inner statements
  | .decl d => by
    simp only [Statement.lines]
    exact Decl.lines_add depth inner d
  | .unprintable kind data => by
    simp only [Statement.lines]
    rfl

theorem Statement.linesAll_add (depth inner : Nat) : (ss : List Statement) →
    Statement.linesAll (depth + inner) ss = shifted depth (Statement.linesAll inner ss)
  | [] => by
    simp only [Statement.linesAll]
    rfl
  | s :: ss => by
    simp only [Statement.linesAll, Statement.lines_add depth inner s,
      Statement.linesAll_add depth inner ss]
    exact shifted_append depth _ _

theorem SwitchCase.linesAll_add (depth inner : Nat) : (cases : List SwitchCase) →
    SwitchCase.linesAll (depth + inner) cases = shifted depth (SwitchCase.linesAll inner cases)
  | [] => by
    simp only [SwitchCase.linesAll]
    rfl
  | ⟨label, statements⟩ :: cases => by
    have hLabel : indent inner ++ ("case " ++ (label ++ ":")) ≠ "" := by simp
    simp only [SwitchCase.linesAll, Nat.add_assoc, Statement.linesAll_add depth (inner + 1) statements,
      SwitchCase.linesAll_add depth inner cases, String.append_assoc]
    refine shifted_bind depth _ fun body => shifted_bind depth _ fun rest => congrArg Except.ok ?_
    rw [List.map_append, List.map_cons, indented_indent inner hLabel]

theorem Statement.bodyLines_add (depth : Nat) {inner : Nat} {header : String}
    (h : indent inner ++ header ≠ "") : (body : Option Statement) →
    Statement.bodyLines (depth + inner) header body =
      shifted depth (Statement.bodyLines inner header body)
  | none => by
    simp only [Statement.bodyLines]
    exact (shifted_line depth h).symm
  | some body => by
    simp only [Statement.bodyLines, Nat.add_assoc, Statement.lines_add depth (inner + 1) body]
    exact shifted_braced depth inner _ _

/-- Accessors stand inside braces, so that even one without a name has a line that is not empty. -/
theorem Accessor.linesAll_add (depth inner : Nat) : (accessors : List Accessor) →
    Accessor.linesAll (depth + (inner + 1)) accessors =
      shifted depth (Accessor.linesAll (inner + 1) accessors)
  | [] => by
    simp only [Accessor.linesAll]
    rfl
  | ⟨kind, effects, body, parameter, modifiers⟩ :: accessors => by
    simp only [Accessor.linesAll, Statement.bodyLines_add depth (indent_succ_append_ne_empty _ _) body,
      Accessor.linesAll_add depth inner accessors]
    exact shifted_append depth _ _

theorem AccessorBlock.lines_add (depth inner : Nat) {head : String} (h : head ≠ "") :
    (block : Option AccessorBlock) →
    AccessorBlock.lines (depth + inner) head block = shifted depth (AccessorBlock.lines inner head block)
  | none => by
    simp only [AccessorBlock.lines]
    exact (shifted_line depth (append_ne_empty h)).symm
  | some ⟨accessors, some getter⟩ => by
    simp only [AccessorBlock.lines, dropSpaces_indent, Nat.add_assoc,
      Statement.lines_add depth (inner + 1) getter]
    exact shifted_braced depth inner _ _
  | some ⟨accessors, none⟩ => by
    simp only [AccessorBlock.lines, Nat.add_assoc, Accessor.linesAll_add depth inner accessors]
    split
    · simp only [String.append_assoc]
      exact (shifted_line depth (by simp)).symm
    · exact shifted_braced depth inner _ _

theorem Binding.lines_add (depth inner : Nat) {header : String} (h : header ≠ "") :
    (bindings : List Binding) →
    Binding.lines (depth + inner) header bindings = shifted depth (Binding.lines inner header bindings)
  | [⟨pattern, type, initialValue, accessorBlock⟩] => by
    simp only [Binding.lines]
    exact AccessorBlock.lines_add depth inner (by simp [h]) accessorBlock
  | [] => Binding.several_lines_add depth inner h nofun
  | b :: b' :: bindings => Binding.several_lines_add depth inner h nofun

theorem FunctionDecl.lines_add (depth inner : Nat) : (d : FunctionDecl) →
    d.lines (depth + inner) = shifted depth (d.lines inner)
  | ⟨_, _, _, _, _, _, body, _, _, _⟩ => by
    simp only [FunctionDecl.lines]
    exact Statement.bodyLines_add depth (append_ne_empty (FunctionDecl.head_ne_empty _)) body

theorem InitializerDecl.lines_add (depth inner : Nat) : (d : InitializerDecl) →
    d.lines (depth + inner) = shifted depth (d.lines inner)
  | ⟨_, _, body, _, _, _, _, _, _⟩ => by
    simp only [InitializerDecl.lines]
    exact Statement.bodyLines_add depth (append_ne_empty (InitializerDecl.head_ne_empty _)) body

theorem VariableDecl.lines_add (depth inner : Nat) : (d : VariableDecl) →
    d.lines (depth + inner) = shifted depth (d.lines inner)
  | ⟨_, bindings, _, _, _⟩ => by
    simp only [VariableDecl.lines]
    exact Binding.lines_add depth inner (VariableDecl.header_ne_empty _) bindings

theorem Decl.lines_add (depth inner : Nat) : (d : Decl) →
    d.lines (depth + inner) = shifted depth (d.lines inner)
  | .raw text position => by
    simp only [Decl.lines, shifted_ok, map_textLines]
  | .function d => by
    simp only [Decl.lines]
    exact FunctionDecl.lines_add depth inner d
  | .initializer d => by
    simp only [Decl.lines]
    exact InitializerDecl.lines_add depth inner d
  | .variable d => by
    simp only [Decl.lines]
    exact VariableDecl.lines_add depth inner d
  | .enumCase d => by
    simp only [Decl.lines]
    exact (shifted_line depth (append_ne_empty d.line_ne_empty)).symm
  | .type header members => by
    simp only [Decl.lines, Nat.add_assoc, Decl.linesAll_add depth (inner + 1) members]
    exact shifted_braced depth inner _ _
  | .statement s => by
    simp only [Decl.lines]
    exact Statement.lines_add depth inner s
  | .file declarations => by
    simp only [Decl.lines]
    exact Decl.separatedLines_add depth inner declarations

theorem Decl.linesAll_add (depth inner : Nat) : (ds : List Decl) →
    Decl.linesAll (depth + inner) ds = shifted depth (Decl.linesAll inner ds)
  | [] => by
    simp only [Decl.linesAll]
    rfl
  | d :: ds => by
    simp only [Decl.linesAll, Decl.lines_add depth inner d, Decl.linesAll_add depth inner ds]
    exact shifted_append depth _ _

theorem Decl.separatedLines_add (depth inner : Nat) : (ds : List Decl) →
    Decl.separatedLines (depth + inner) ds = shifted depth (Decl.separatedLines inner ds)
  | [] => by
    simp only [Decl.separatedLines]
    rfl
  | [d] => by
    simp only [Decl.separatedLines]
    exact Decl.lines_add depth inner d
  | d :: d' :: ds => by
    simp only [Decl.separatedLines, Decl.lines_add depth inner d,
      Decl.separatedLines_add depth inner (d' :: ds)]
    refine shifted_bind depth _ fun first => shifted_bind depth _ fun rest => congrArg Except.ok ?_
    rw [List.map_append, List.map_cons]
    rfl

end

theorem Decl.linesAll_append (depth : Nat) (ds es : List Decl) :
    Decl.linesAll depth (ds ++ es) = do
      let first ← Decl.linesAll depth ds
      let rest ← Decl.linesAll depth es
      return first ++ rest := by
  induction ds with
  | nil =>
    simp only [Decl.linesAll, List.nil_append]
    exact (bind_pure _).symm
  | cons d ds ih =>
    simp only [List.cons_append, Decl.linesAll, ih, bind_assoc, pure_bind, List.append_assoc]

/-! ## Members of types -/

/-- A type with a place for one more member. -/
structure Enclosure where
  header : TypeHeader
  before : List Decl
  behind : List Decl

namespace Enclosure

def around (t : Enclosure) (member : Decl) : Decl :=
  .type t.header (t.before ++ member :: t.behind)

def nest (types : List Enclosure) (member : Decl) : Decl :=
  types.foldr around member

def opening (depth : Nat) : List Enclosure → Except PrintError (List String)
  | [] => return []
  | t :: types => do
    let before ← Decl.linesAll (depth + 1) t.before
    let rest ← opening (depth + 1) types
    return (indent depth ++ t.header.render ++ " \x7b") :: before ++ rest

def closing (depth : Nat) : List Enclosure → Except PrintError (List String)
  | [] => return []
  | t :: types => do
    let rest ← closing (depth + 1) types
    let behind ← Decl.linesAll (depth + 1) t.behind
    return rest ++ behind ++ [indent depth ++ "\x7d"]

theorem lines_nest (depth : Nat) (types : List Enclosure) (member : Decl) :
    (nest types member).lines depth = do
      let before ← opening depth types
      let own ← shifted (depth + types.length) (member.lines 0)
      let behind ← closing depth types
      return before ++ own ++ behind := by
  induction types generalizing depth with
  | nil =>
    simp only [opening, closing, pure_bind, List.nil_append, List.append_nil, bind_pure]
    exact Decl.lines_add depth 0 member
  | cons t types ih =>
    have hDepth : depth + 1 + types.length = depth + (types.length + 1) := by omega
    change (Decl.type t.header (t.before ++ nest types member :: t.behind)).lines depth = _
    simp only [Decl.lines, Decl.linesAll_append, Decl.linesAll, ih, opening, closing, braced, bind_assoc,
      pure_bind, hDepth, List.length_cons, List.append_assoc, List.cons_append]

end Enclosure

/-- At every depth a statement, a block among them, a declaration or a file prints the lines that it
prints at depth zero, put further in, or fails as it fails there. So a member inside types is printed
as on its own, between what the types print around it. -/
theorem lines_depth (depth : Nat) :
    (∀ s : Statement, s.lines depth = shifted depth (s.lines 0)) ∧
      (∀ d : Decl, d.lines depth = shifted depth (d.lines 0)) ∧
      (∀ file : SourceFile, file.lines depth = shifted depth (file.lines 0)) ∧
      ∀ (types : List Enclosure) (member : Decl),
        (Enclosure.nest types member).lines depth = do
          let before ← Enclosure.opening depth types
          let own ← shifted (depth + types.length) (member.lines 0)
          let behind ← Enclosure.closing depth types
          return before ++ own ++ behind :=
  ⟨Statement.lines_add depth 0, Decl.lines_add depth 0,
    fun file => Decl.separatedLines_add depth 0 file.declarations, Enclosure.lines_nest depth⟩

end SwiftDerive
