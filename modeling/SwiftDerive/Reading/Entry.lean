import SwiftDerive.Reading.Declarations

/-! # Reading source files, declarations and types

The three things that a text is read as, each with the concrete trees that a grammar gives for it.
A declaration that stands only inside a type is read inside a holder of one of three kinds. A type
is read as that of a parameter of a placeholder function.
-/

namespace SwiftDerive.Reading

set_option autoImplicit false

open Grammar

/-- A concrete tree with its source, unless it has an error; then the first error of it. -/
def checked (src : Source) (root : Node) : Except ParseError Node :=
  if root.hasError then .error (src.error root.firstError) else .ok root

def parseSourceFile (text : String) (tree : Node) : Except ParseError SourceFile := do
  let src : Source := ⟨text.toList, 0⟩
  let root ← checked src tree
  return ⟨← root.parts.mapM (declAt src)⟩

def holders : List String :=
  ["struct Holder \x7b", "protocol Holder \x7b", "enum Holder \x7b"]

/-- A text inside a holder, whose header line does not count. -/
def held (holder text : String) : Source :=
  ⟨(holder ++ "\n" ++ text ++ "\n\x7d").toList, 1⟩

def onlyMember? (root : Node) : Option Node :=
  match root.parts with
  | [holder] =>
    match holder.parts.find? (·.isOf bodyKinds) with
    | some body =>
      match body.parts with
      | [member] => some member
      | _ => none
    | none => none
  | _ => none

/-- The text as the only member of the first holder in which it is one; each holder takes one
tree. -/
def member (text : String) : (holders : List String) → (trees : List Node) →
    Except ParseError (Option Decl)
  | holder :: holders, tree :: trees =>
    let src := held holder text
    if tree.hasError then member text holders trees
    else
      match onlyMember? tree with
      | some node => (declAt src node).map some
      | none => member text holders trees
  | _, _ => .ok none

def isRaw : Decl → Bool
  | .raw .. => true
  | _ => false

/-- The text as exactly one declaration. The first tree is that of the text itself, the others are
for the holders. -/
def parseDeclaration (text : String) (trees : List Node) : Except ParseError Decl :=
  match trees with
  | [] => .error ⟨.noDeclaration, ⟨1, 1⟩⟩
  | tree :: others =>
    let src : Source := ⟨text.toList, 0⟩
    match checked src tree with
    | .error e =>
      match member text holders others with
      | .ok (some decl) => .ok decl
      | .ok none => .error e
      | .error e => .error e
    | .ok root =>
      match root.parts with
      | [] => .error ⟨.noDeclaration, ⟨1, 1⟩⟩
      | [node] =>
        if node.isOf declKinds then declAt src node
        else
          match member text holders others with
          | .error e => .error e
          | .ok (some decl) => if isRaw decl then declAt src node else .ok decl
          | .ok none => declAt src node
      | _ :: second :: _ => .error ⟨.severalDeclarations, src.position second⟩

def typeHolder : String := "func holder(_ value: "

def typeSource (text : String) : Source :=
  ⟨(typeHolder ++ text ++ ") \x7b\x7d").toList, 0⟩

/-- The place without the columns that stand before the type, but in the first column at least. -/
def behindHolder (p : Position) : Position :=
  { p with column := max 1 (p.column - typeHolder.length) }

def holderType? : List Parameter → Option TypeRef
  | [p] => if p.variadic then none else some p.type
  | _ => none

def parseType (text : String) (tree : Node) : Except ParseError TypeRef :=
  let src := typeSource text
  match checked src tree with
  -- The holder stands in the first line only, but columns are moved in every line.
  | .error e => .error { e with position := behindHolder e.position }
  | .ok root =>
    let refused : Except ParseError TypeRef := .error ⟨.notOneType, ⟨1, 1⟩⟩
    match root.parts with
    | [node] =>
      if node.kind == "function_declaration" then
        match functionOf? src node with
        | .error e => .error e
        | .ok f =>
          match holderType? f.parameters with
          | some t => .ok t
          | none => refused
      else refused
    | _ => refused

end SwiftDerive.Reading
