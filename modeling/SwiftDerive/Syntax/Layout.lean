import SwiftDerive.Syntax.Decl
import SwiftDerive.Syntax.TypeText
import SwiftDerive.Text.Lines

/-! # Source text of declarations

A declaration is laid out as a list of lines at a depth of nesting, each depth being four spaces.
The header of a declaration takes one line; statements and raw texts keep their own lines.
-/

namespace SwiftDerive

set_option autoImplicit false

/-- A thing without printed form was to be printed. -/
structure PrintError where
  kind : String
  deriving DecidableEq, Repr

def PrintError.message (e : PrintError) : String :=
  "Cannot render node of type " ++ e.kind

namespace Layout

def indent (depth : Nat) : String :=
  String.ofList (List.replicate (4 * depth) ' ')

/-- A text of several lines at the given depth; its blank lines become empty. -/
def textLines (depth : Nat) (text : String) : List String :=
  (Text.lines text.toList).map fun line =>
    if Text.isBlankText line then "" else indent depth ++ String.ofList line

/-- A header line, the lines inside its braces and the closing brace. -/
def braced (depth : Nat) (header : String) (inner : List String) : List String :=
  (indent depth ++ header ++ " \x7b") :: inner ++ [indent depth ++ "\x7d"]

end Layout

def Attribute.render (a : Attribute) : String :=
  match a.arguments with
  | none => "@" ++ a.name
  | some arguments => "@" ++ a.name ++ "(" ++ arguments ++ ")"

def Modifier.render (m : Modifier) : String :=
  match m.detail with
  | none => m.name
  | some detail => m.name ++ "(" ++ detail ++ ")"

def GenericParameter.render (p : GenericParameter) : String :=
  match p.constraint with
  | none => p.name
  | some constraint => p.name ++ ": " ++ constraint.render

/-- The text of a requirement; only a conformance has no space before its sign. -/
def WhereRequirement.render (r : WhereRequirement) : String :=
  if r.relation = ":" then r.left.render ++ ": " ++ r.right.render
  else r.left.render ++ " " ++ r.relation ++ " " ++ r.right.render

def WhereClause.render (c : WhereClause) : String :=
  "where " ++ commaSeparated (c.requirements.map WhereRequirement.render)

def Effects.render (e : Effects) : String :=
  " ".intercalate ((if e.isAsync then ["async"] else []) ++
    match e.throwsKeyword, e.thrown with
    | none, _ => []
    | some keyword, none => [keyword]
    | some keyword, some thrown => [keyword ++ "(" ++ thrown.render ++ ")"])

def Parameter.render (p : Parameter) : String :=
  String.join (p.attributes.map fun a => a.render ++ " ") ++ p.firstName ++
    (match p.secondName with
      | none => ""
      | some name => " " ++ name) ++
    ": " ++ p.type.render ++ (if p.variadic then "..." else "") ++
    (match p.defaultValue with
      | none => ""
      | some value => " = " ++ value)

def CaseParameter.render (p : CaseParameter) : String :=
  (match p.firstName, p.secondName with
    | none, _ => ""
    | some first, none => first ++ ": "
    | some first, some second => first ++ " " ++ second ++ ": ") ++
  p.type.render ++
  (match p.defaultValue with
    | none => ""
    | some value => " = " ++ value)

def CaseElement.render (e : CaseElement) : String :=
  e.name ++
    (match e.parameters with
      | none => ""
      | some parameters => "(" ++ commaSeparated (parameters.map CaseParameter.render) ++ ")") ++
    (match e.rawValue with
      | none => ""
      | some value => " = " ++ value)

def Binding.head (b : Binding) : String :=
  b.pattern ++
    (match b.type with
      | none => ""
      | some type => ": " ++ type.render) ++
    (match b.initialValue with
      | none => ""
      | some value => " = " ++ value)

def Accessor.head (a : Accessor) : String :=
  let kind := match a.parameter with
    | none => a.kind
    | some parameter => a.kind ++ "(" ++ parameter ++ ")"
  let effects := a.effects.render
  " ".intercalate (a.modifiers.map Modifier.render ++ [kind] ++
    if effects.isEmpty then [] else [effects])

namespace Layout

def decorations (attributes : List Attribute) (modifiers : List Modifier) : String :=
  String.join ((attributes.map Attribute.render ++ modifiers.map Modifier.render).map (· ++ " "))

def whereSuffix : Option WhereClause → String
  | none => ""
  | some clause => " " ++ clause.render

def effectSuffix (effects : Effects) : String :=
  let text := effects.render
  if text.isEmpty then "" else " " ++ text

def parameterClause (parameters : List Parameter) : String :=
  "(" ++ commaSeparated (parameters.map Parameter.render) ++ ")"

def dropSpaces (line : String) : String :=
  String.ofList (line.toList.dropWhile (· == ' '))

end Layout

open Layout

def FunctionDecl.head (d : FunctionDecl) : String :=
  decorations d.attributes d.modifiers ++ "func " ++ d.name ++
    angled (d.genericParameters.map GenericParameter.render) ++ parameterClause d.parameters ++
    effectSuffix d.effects ++
    (match d.result with
      | none => ""
      | some result => " -> " ++ result.render) ++
    whereSuffix d.whereClause

def InitializerDecl.head (d : InitializerDecl) : String :=
  decorations d.attributes d.modifiers ++ "init" ++ d.optionalMark.getD "" ++
    angled (d.genericParameters.map GenericParameter.render) ++ parameterClause d.parameters ++
    effectSuffix d.effects ++ whereSuffix d.whereClause

def TypeHeader.render (h : TypeHeader) : String :=
  decorations h.attributes h.modifiers ++ h.kind.keyword ++ " " ++ h.name ++
    angled (h.genericParameters.map GenericParameter.render) ++
    (if h.inheritance.isEmpty then ""
      else ": " ++ commaSeparated (h.inheritance.map TypeRef.render)) ++
    whereSuffix h.whereClause

def VariableDecl.header (d : VariableDecl) : String :=
  decorations d.attributes d.modifiers ++ d.keyword ++ " "

def CaseDecl.line (d : CaseDecl) : String :=
  decorations d.attributes d.modifiers ++ "case " ++
    commaSeparated (d.elements.map CaseElement.render)

mutual

def Statement.lines (depth : Nat) : Statement → Except PrintError (List String)
  | .raw text => .ok (textLines depth text)
  | .branch subject cases => do
    let inner ← SwitchCase.linesAll depth cases
    return braced depth ("switch " ++ subject) inner
  | .block statements => Statement.linesAll depth statements
  | .decl d => d.lines depth
  | .unprintable kind _ => .error ⟨kind⟩

def Statement.linesAll (depth : Nat) : List Statement → Except PrintError (List String)
  | [] => .ok []
  | s :: ss => do
    let first ← s.lines depth
    let rest ← Statement.linesAll depth ss
    return first ++ rest

/-- The lines of the cases of a `switch`, labels at the depth of the `switch` itself. -/
def SwitchCase.linesAll (depth : Nat) : List SwitchCase → Except PrintError (List String)
  | [] => .ok []
  | ⟨label, statements⟩ :: cases => do
    let inner ← Statement.linesAll (depth + 1) statements
    let rest ← SwitchCase.linesAll depth cases
    return (indent depth ++ "case " ++ label ++ ":") :: inner ++ rest

/-- The lines of a header alone, or with the body it introduces. -/
def Statement.bodyLines (depth : Nat) (header : String) :
    Option Statement → Except PrintError (List String)
  | none => .ok [indent depth ++ header]
  | some body => do
    let inner ← body.lines (depth + 1)
    return braced depth header inner

def Accessor.linesAll (depth : Nat) : List Accessor → Except PrintError (List String)
  | [] => .ok []
  | ⟨kind, effects, body, parameter, modifiers⟩ :: accessors => do
    let first ← Statement.bodyLines depth
      (Accessor.head ⟨kind, effects, body, parameter, modifiers⟩) body
    let rest ← Accessor.linesAll depth accessors
    return first ++ rest

/-- The lines of a property whose text without accessors is given. Accessors without bodies stand on
the line of the property; in front of the body of a getter that line is indented anew. -/
def AccessorBlock.lines (depth : Nat) (head : String) :
    Option AccessorBlock → Except PrintError (List String)
  | none => .ok [indent depth ++ head]
  | some ⟨_, some getter⟩ => do
    let inner ← getter.lines (depth + 1)
    return braced depth (dropSpaces (indent depth ++ head)) inner
  | some ⟨accessors, none⟩ =>
    if accessors.all (·.body.isNone) then
      .ok [indent depth ++ head ++ " \x7b " ++ " ".intercalate (accessors.map Accessor.head) ++
        " \x7d"]
    else do
      let inner ← Accessor.linesAll (depth + 1) accessors
      return braced depth head inner

/-- The lines of a `var` or `let` declaration of the given bindings. Accessors of several bindings
are not written. -/
def Binding.lines (depth : Nat) (header : String) :
    List Binding → Except PrintError (List String)
  | [⟨pattern, type, initialValue, accessorBlock⟩] =>
    AccessorBlock.lines depth
      (header ++ Binding.head ⟨pattern, type, initialValue, accessorBlock⟩) accessorBlock
  | bindings => .ok [indent depth ++ header ++ commaSeparated (bindings.map Binding.head)]

def FunctionDecl.lines (depth : Nat) (d : FunctionDecl) : Except PrintError (List String) :=
  match d with
  | ⟨_, _, _, _, _, _, body, _, _, _⟩ => Statement.bodyLines depth d.head body

def InitializerDecl.lines (depth : Nat) (d : InitializerDecl) : Except PrintError (List String) :=
  match d with
  | ⟨_, _, body, _, _, _, _, _, _⟩ => Statement.bodyLines depth d.head body

def VariableDecl.lines (depth : Nat) (d : VariableDecl) : Except PrintError (List String) :=
  match d with
  | ⟨_, bindings, _, _, _⟩ => Binding.lines depth d.header bindings

def Decl.lines (depth : Nat) : Decl → Except PrintError (List String)
  | .function d => d.lines depth
  | .initializer d => d.lines depth
  | .variable d => d.lines depth
  | .enumCase d => .ok [indent depth ++ d.line]
  | .type header members => do
    let inner ← Decl.linesAll (depth + 1) members
    return braced depth header.render inner
  | .raw text _ => .ok (textLines depth text)
  | .statement s => s.lines depth
  | .file declarations => Decl.separatedLines depth declarations

def Decl.linesAll (depth : Nat) : List Decl → Except PrintError (List String)
  | [] => .ok []
  | d :: ds => do
    let first ← d.lines depth
    let rest ← Decl.linesAll depth ds
    return first ++ rest

/-- The lines of top-level declarations, with an empty line between neighbours. -/
def Decl.separatedLines (depth : Nat) : List Decl → Except PrintError (List String)
  | [] => .ok []
  | [d] => d.lines depth
  | d :: ds => do
    let first ← d.lines depth
    let rest ← Decl.separatedLines depth ds
    return first ++ "" :: rest

end

theorem FunctionDecl.lines_eq (depth : Nat) (d : FunctionDecl) :
    d.lines depth = Statement.bodyLines depth d.head d.body := by
  cases d
  simp only [FunctionDecl.lines]

theorem InitializerDecl.lines_eq (depth : Nat) (d : InitializerDecl) :
    d.lines depth = Statement.bodyLines depth d.head d.body := by
  cases d
  simp only [InitializerDecl.lines]

theorem VariableDecl.lines_eq (depth : Nat) (d : VariableDecl) :
    d.lines depth = Binding.lines depth d.header d.bindings := by
  cases d
  simp only [VariableDecl.lines]

def Decl.render (d : Decl) : Except PrintError String :=
  return "\n".intercalate (← d.lines 0)

def SourceFile.lines (depth : Nat) (file : SourceFile) : Except PrintError (List String) :=
  Decl.separatedLines depth file.declarations

def SourceFile.render (file : SourceFile) : Except PrintError String :=
  return "\n".intercalate (← file.lines 0)

inductive Fragment where
  | type (type : TypeRef)
  | decl (decl : Decl)

def Fragment.render : Fragment → Except PrintError String
  | .type t => .ok t.render
  | .decl d => d.render

end SwiftDerive
