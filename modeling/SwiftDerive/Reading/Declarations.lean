import SwiftDerive.Reading.Parts
import SwiftDerive.Syntax.TypeText

/-! # Reading declarations

A node is read as a declaration and, in case it is the body of a type, as the list of its members.
Nodes of other kinds than those of declarations are kept as raw text.
-/

namespace SwiftDerive.Reading

set_option autoImplicit false

open Grammar

def bodyKinds : List String :=
  ["class_body", "enum_class_body", "protocol_body"]

structure DeclReading where
  decl : Except ParseError Decl
  members : Except ParseError (List Decl)

structure ReadDecl where
  node : Node
  reading : DeclReading

def functionOf? (src : Source) (n : Node) : Except ParseError FunctionDecl := do
  let decorations := decorationsOf src ["class"] n
  let results ← typesIn src n.children
  match functionName? src n.children with
  | none => throw (src.error n)
  | some name =>
    let parameters ← parametersOf src n
    let effects ← effectsOf src n
    let genericParameters ← genericParametersOf src n
    let whereClause ← whereClauseOf src n
    return {
      name, parameters, effects, genericParameters, whereClause
      result := results.getLast?
      body := bodyOf src n
      attributes := decorations.attributes
      modifiers := decorations.modifiers
      position := some (src.position n) }

def optionalMark? : List Node → Option String
  | init :: mark :: rest =>
    if init.kind == "init" then if mark.isOf ["?", "!"] then some mark.kind else none
    else optionalMark? (mark :: rest)
  | _ => none

def initializerOf (src : Source) (n : Node) : Except ParseError InitializerDecl := do
  let decorations := decorationsOf src ["class"] n
  let parameters ← parametersOf src n
  let effects ← effectsOf src n
  let genericParameters ← genericParametersOf src n
  let whereClause ← whereClauseOf src n
  return {
    parameters, effects, genericParameters, whereClause
    body := bodyOf src n
    optionalMark := optionalMark? n.children
    attributes := decorations.attributes
    modifiers := decorations.modifiers
    position := some (src.position n) }

structure PropertyRun where
  keyword : String
  bindings : List Binding

def accessorListKinds : List String :=
  ["computed_property", "protocol_property_requirements", "willset_didset_block"]

/-- The kinds of nodes that are part of a binding and are not its initial value. -/
def bindingPartKinds : List String :=
  ["modifiers", "value_binding_pattern", "type_constraints", "type_annotation", "pattern"]

/-- The keyword that a pattern starts with, if it has one, and the pattern behind it. -/
def patternKeyword? (pattern : String) : Option (String × String) :=
  match pattern.toList with
  | 'v' :: 'a' :: 'r' :: ' ' :: rest => some ("var", String.ofList rest)
  | 'l' :: 'e' :: 't' :: ' ' :: rest => some ("let", String.ofList rest)
  | _ => none

def lastWord (text : List Char) : String :=
  String.ofList ((Text.words text).getLast?.getD [])

def annotationOf (src : Source) (n : Node) : Except ParseError TypeRef := do
  firstType src n (← typesIn src n.children)

def PropertyRun.onLast (run : PropertyRun) (f : Binding → Binding) : PropertyRun :=
  { run with bindings := modifyLast f run.bindings }

/-- One child more of a property: a pattern starts a binding, what follows belongs to the last. -/
def PropertyRun.step (src : Source) (run : PropertyRun) (n : Node) :
    Except ParseError PropertyRun :=
  if n.kind == "value_binding_pattern" then .ok { run with keyword := lastWord (src.chars n) }
  else if n.kind == "pattern" then
    let pattern := src.collapsed n
    let (keyword, pattern) := (patternKeyword? pattern).getD (run.keyword, pattern)
    .ok ⟨keyword, run.bindings ++ [⟨pattern, none, none, none⟩]⟩
  else if run.bindings.isEmpty || !n.isPart then .ok run
  else if n.kind == "type_annotation" then
    (annotationOf src n).map fun type => run.onLast fun b => { b with type := some type }
  else if n.isOf accessorListKinds then
    (accessorBlockOf src n).map fun block =>
      run.onLast fun b => { b with accessorBlock := some block }
  else if n.isOf bindingPartKinds then .ok run
  else .ok (run.onLast fun b => { b with initialValue := some (src.raw n) })

def variableOf (src : Source) (n : Node) : Except ParseError VariableDecl := do
  let decorations := decorationsOf src [] n
  let run ← n.children.foldlM (PropertyRun.step src) ⟨"var", []⟩
  if run.bindings.isEmpty then throw (src.error n)
  return {
    keyword := run.keyword
    bindings := run.bindings
    attributes := decorations.attributes
    modifiers := decorations.modifiers
    position := some (src.position n) }

/-- One child more of a `case` declaration: a name starts an element, what follows belongs to the
last. -/
def elementStep (src : Source) (elements : List CaseElement) (n : Node) :
    Except ParseError (List CaseElement) :=
  if n.kind == "simple_identifier" then
    .ok (elements ++ [⟨src.text n, none, none, some (src.position n)⟩])
  else if elements.isEmpty || !n.isPart then .ok elements
  else if n.kind == "enum_type_parameters" then
    (caseParametersOf src n).map fun parameters =>
      modifyLast (fun e => { e with parameters := some parameters }) elements
  else if n.kind == "modifiers" then .ok elements
  else .ok (modifyLast (fun e => { e with rawValue := some (src.raw n) }) elements)

def caseOf (src : Source) (n : Node) : Except ParseError CaseDecl := do
  let decorations := decorationsOf src ["indirect"] n
  let elements ← n.children.foldlM (elementStep src) []
  return {
    elements
    attributes := decorations.attributes
    modifiers := decorations.modifiers
    position := some (src.position n) }

structure HeaderRun where
  kind : Option TypeKind
  name : Option String
  genericParameters : List GenericParameter
  inheritance : List TypeRef
  /-- Attributes that wait for the next inherited type. -/
  attributes : List String
  whereClause : Option WhereClause
  members : List Decl

def inheritedType (src : Source) (attributes : List String) (n : Node) :
    Except ParseError TypeRef :=
  match n.parts with
  | [] => .error (src.error n)
  | part :: _ => (typeAt src part).map (·.attributedWith attributes)

/-- One child more of a type declaration. The first keyword gives the kind and the first type or
identifier the name, which for an extension is a whole type. -/
def HeaderRun.step (src : Source) (run : HeaderRun) (child : ReadDecl) :
    Except ParseError HeaderRun :=
  let n := child.node
  if !n.named then
    .ok { run with kind := run.kind.orElse fun _ => TypeKind.ofKeyword? n.kind }
  else if n.isComment || n.kind == "modifiers" then .ok run
  else if run.name.isNone && n.isOf ("simple_identifier" :: typeKinds) then
    if run.kind = some .extensionType then
      (typeAt src n).map fun t => { run with name := some t.render }
    else .ok { run with name := some (src.text n) }
  else if n.kind == "type_parameters" then
    (genericParametersIn src n).map fun ps => { run with genericParameters := ps }
  else if n.kind == "attribute" then
    .ok { run with attributes := run.attributes ++ [src.collapsed n] }
  else if n.kind == "inheritance_specifier" then
    (inheritedType src run.attributes n).map fun t =>
      { run with inheritance := run.inheritance ++ [t], attributes := [] }
  else if n.kind == "type_constraints" then
    (whereClauseIn src n).map fun clause => { run with whereClause := some clause }
  else if n.isOf bodyKinds then
    child.reading.members.map fun members => { run with members }
  else .ok run

def typeDeclOf (src : Source) (n : Node) (children : List ReadDecl) : Except ParseError Decl := do
  let decorations := decorationsOf src ["indirect"] n
  let run ← children.foldlM (HeaderRun.step src) ⟨none, none, [], [], [], none, []⟩
  match run.kind, run.name with
  | some kind, some name =>
    return .type
      { kind, name
        genericParameters := run.genericParameters
        inheritance := run.inheritance
        whereClause := run.whereClause
        attributes := decorations.attributes
        modifiers := decorations.modifiers
        position := some (src.position n) }
      run.members
  | _, _ => throw (src.error n)

def declKinds : List String :=
  ["class_declaration", "protocol_declaration", "function_declaration",
   "protocol_function_declaration", "init_declaration", "property_declaration",
   "protocol_property_declaration", "enum_entry"]

def declOf (src : Source) (n : Node) (children : List ReadDecl) : Except ParseError Decl :=
  match n.kind with
  | "class_declaration" | "protocol_declaration" => typeDeclOf src n children
  | "function_declaration" | "protocol_function_declaration" =>
    (functionOf? src n).map Decl.function
  | "init_declaration" => (initializerOf src n).map Decl.initializer
  | "property_declaration" | "protocol_property_declaration" =>
    (variableOf src n).map Decl.variable
  | "enum_entry" => (caseOf src n).map Decl.enumCase
  | _ => .ok (.raw (src.raw n) (some (src.position n)))

def declReadingOf (src : Source) (n : Node) (children : List ReadDecl) : DeclReading where
  decl := declOf src n children
  members := (children.filter (·.node.isPart)).mapM (·.reading.decl)

mutual

def readDecl (src : Source) (n : Node) : DeclReading :=
  match n with
  | ⟨_, _, _, _, _, _, _, children⟩ => declReadingOf src n (readDecls src children)

def readDecls (src : Source) : List Node → List ReadDecl
  | [] => []
  | n :: ns => ⟨n, readDecl src n⟩ :: readDecls src ns

end

theorem readDecl_eq (src : Source) (n : Node) :
    readDecl src n = declReadingOf src n (readDecls src n.children) := by
  cases n
  simp only [readDecl]

theorem readDecls_eq_map (src : Source) (ns : List Node) :
    readDecls src ns = ns.map fun n => ⟨n, readDecl src n⟩ := by
  induction ns with
  | nil => rfl
  | cons n ns ih => simp only [readDecls, ih, List.map_cons]

def declAt (src : Source) (n : Node) : Except ParseError Decl :=
  (readDecl src n).decl

end SwiftDerive.Reading
