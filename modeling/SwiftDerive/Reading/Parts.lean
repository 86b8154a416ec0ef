import SwiftDerive.Reading.Types
import SwiftDerive.Unicode.Word

/-! # Reading the parts of declarations

Attributes, modifiers, parameters, generic parameters, `where` clauses, accessors and associated
values, each read from the children of the node that holds it.
-/

namespace SwiftDerive.Reading

set_option autoImplicit false

open Grammar

/-- The text of a modifier: a name, or a name and a detail in parentheses that are both words. -/
def modifierOf (text : String) : Modifier :=
  let compact := Text.eraseBlanks text
  let cs := compact.toList
  let name := cs.takeWhile Unicode.isWord
  match cs.dropWhile Unicode.isWord with
  | '(' :: rest =>
    let detail := rest.takeWhile Unicode.isWord
    if rest.dropWhile Unicode.isWord == [')'] && !name.isEmpty && !detail.isEmpty then
      ⟨String.ofList name, some (String.ofList detail)⟩
    else ⟨compact, none⟩
  | _ => ⟨compact, none⟩

def inParentheses? (cs : List Char) : Option (List Char) :=
  match cs with
  | '(' :: rest =>
    if rest.getLast? = some ')' then some (Text.trimChars rest.dropLast) else none
  | _ => none

/-- An attribute: its name is its first part, its arguments follow in parentheses. -/
def attributeOf (src : Source) (n : Node) : Attribute :=
  match n.parts with
  | [] =>
    ⟨String.ofList ((src.chars n).dropWhile (· == '@')), none, some (src.position n)⟩
  | name :: _ =>
    ⟨Text.eraseBlanks (src.text name),
      (inParentheses? (Text.trimChars (src.slice name.stop n.stop))).map String.ofList,
      some (src.position n)⟩

structure Decorations where
  attributes : List Attribute
  modifiers : List Modifier

/-- The attributes and modifiers among the children of a declaration. Some keywords, as `class`
before `func`, are modifiers too. -/
def decorationsOf (src : Source) (keywords : List String) (n : Node) : Decorations :=
  n.children.foldl
    (fun d child =>
      if child.kind == "modifiers" then
        child.parts.foldl
          (fun d item =>
            if item.kind == "attribute" then
              { d with attributes := d.attributes ++ [attributeOf src item] }
            else { d with modifiers := d.modifiers ++ [modifierOf (src.text item)] })
          d
      else if !child.named && child.isOf keywords then
        { d with modifiers := d.modifiers ++ [⟨child.kind, none⟩] }
      else d)
    ⟨[], []⟩

/-- The name of a function: the text behind its first keyword `func`. -/
def functionName? (src : Source) : List Node → Option String
  | func :: name :: rest =>
    -- The next child is the name whatever it is, even a comment.
    if func.kind == "func" then some (Text.trim (src.text name))
    else functionName? src (name :: rest)
  | _ => none

/-- A parameter: its names, its first type and the variadic mark. -/
def parameterOf (src : Source) (n : Node) (attributes : List Attribute) :
    Except ParseError Parameter := do
  let names := (n.children.filter (·.isOf nameKinds)).map src.text
  match names, ← typesIn src n.children with
  | first :: rest, type :: _ =>
    return ⟨first, type, rest.head?, n.children.any (·.kind == "..."), none, attributes⟩
  | _, _ => throw (src.error n)

/-- The parameters so far, and the attributes that wait for the next. -/
structure ParameterRun where
  parameters : List Parameter
  attributes : List Attribute

/-- One part more of a parameter clause: an attribute, a parameter, or the default value of the
last parameter. -/
def ParameterRun.step (src : Source) (run : ParameterRun) (n : Node) :
    Except ParseError ParameterRun :=
  if n.kind == "attribute" then
    .ok { run with attributes := run.attributes ++ [attributeOf src n] }
  else if n.kind == "parameter" then
    match parameterOf src n run.attributes with
    | .ok p => .ok ⟨run.parameters ++ [p], []⟩
    | .error e => .error e
  else
    .ok { run with
      parameters := modifyLast (fun p => { p with defaultValue := some (src.raw n) })
        run.parameters }

/-- The parts of the first clause in parentheses, at the given depth of nesting. -/
def clauseParts : (depth : Int) → List Node → List Node
  | _, [] => []
  | depth, n :: ns =>
    if !n.named then
      if n.kind == "(" then clauseParts (depth + 1) ns
      else if n.kind == ")" then if depth - 1 = 0 then [] else clauseParts (depth - 1) ns
      else clauseParts depth ns
    else if depth = 0 || n.isComment then clauseParts depth ns
    else n :: clauseParts depth ns

def parametersOf (src : Source) (n : Node) : Except ParseError (List Parameter) :=
  ((clauseParts 0 n.children).foldlM (ParameterRun.step src) ⟨[], []⟩).map
    ParameterRun.parameters

def bodyOf (src : Source) (n : Node) : Option Statement :=
  (n.children.find? (·.kind == "function_body")).map fun body => src.block body.start body.stop

def genericParameterOf (src : Source) (n : Node) : Except ParseError GenericParameter :=
  let isName (child : Node) :=
    child.isOf ["type_identifier", "simple_identifier", "type_parameter_pack"]
  match n.children.dropWhile (!isName ·) with
  | [] => .error (src.error n)
  | name :: rest => do return ⟨src.text name, (← typesIn src rest).head?⟩

def genericParametersIn (src : Source) (n : Node) : Except ParseError (List GenericParameter) :=
  (n.parts.filter (·.kind == "type_parameter")).mapM (genericParameterOf src)

def genericParametersOf (src : Source) (n : Node) : Except ParseError (List GenericParameter) :=
  match n.children.find? (·.kind == "type_parameters") with
  | none => .ok []
  | some list => genericParametersIn src list

mutual

/-- The requirements that a node of a `where` clause holds, at any depth. -/
def constraintsIn (n : Node) : List Node :=
  match n with
  | ⟨_, _, _, _, _, _, _, children⟩ => constraintsAmong children

def constraintsAmong : List Node → List Node
  | [] => []
  | n :: ns =>
    (if !n.isPart then []
      else if n.isOf ["inheritance_constraint", "equality_constraint"] then [n]
      else if n.kind == "type_constraint" then constraintsIn n
      else []) ++ constraintsAmong ns

end

def pathType (text : List Char) : TypeRef :=
  match (text.splitOn '.').map fun part => String.ofList (Text.trimChars part) with
  | [] => .named "" []
  | first :: rest => rest.foldl (fun base name => .member base name []) (.named first [])

def constrainedStep (src : Source) (found : Option TypeRef) (n : Node) :
    Except ParseError (Option TypeRef) :=
  if n.kind == "identifier" then .ok (some (pathType (src.chars n)))
  else if n.isOf typeKinds then (typeAt src n).map some
  else match found with
    | some base =>
      if n.kind == "simple_identifier" then .ok (some (.member base (src.text n) []))
      else .ok found
    | none => .ok none

/-- A requirement: its last part is the bound, what stands before is the constrained type. -/
def requirementOf (src : Source) (n : Node) : Except ParseError WhereRequirement := do
  let parts := n.parts.filter (·.kind != "attribute")
  match parts.getLast?, parts.dropLast with
  | some bound, first :: rest =>
    match ← (first :: rest).foldlM (constrainedStep src) none with
    | none => throw (src.error first)
    | some left =>
      let right ← typeAt src bound
      return ⟨left, if n.kind == "equality_constraint" then "==" else ":", right⟩
  | _, _ => throw (src.error n)

def whereClauseIn (src : Source) (n : Node) : Except ParseError WhereClause := do
  return ⟨← (constraintsIn n).mapM (requirementOf src)⟩

def whereClauseOf (src : Source) (n : Node) : Except ParseError (Option WhereClause) :=
  match n.children.find? (·.kind == "type_constraints") with
  | none => .ok none
  | some clause => (whereClauseIn src clause).map some

def accessorKind? (kind : String) : Option String :=
  match kind with
  | "computed_getter" | "getter_specifier" => some "get"
  | "computed_setter" | "setter_specifier" => some "set"
  | "computed_modify" | "modify_specifier" => some "_modify"
  | "willset_clause" => some "willSet"
  | "didset_clause" => some "didSet"
  | _ => none

def isSpecifier (n : Node) : Bool := n.kind.endsWith "_specifier"

def accessorOf (src : Source) (kind : String) (n : Node) : Except ParseError Accessor := do
  let specifier := if isSpecifier n then some n else n.parts.find? isSpecifier
  let effects ← match specifier with
    | none => pure Effects.empty
    | some specifier => effectsOf src specifier
  return {
    kind
    effects
    body := (n.children.find? (·.kind == "\x7b")).map fun brace => src.block brace.start n.stop
    parameter := (n.parts.find? (·.kind == "simple_identifier")).map src.text
    modifiers := match specifier with
      | none => []
      | some specifier =>
        (specifier.parts.filter (·.kind == "mutation_modifier")).map fun m => ⟨src.text m, none⟩ }

/-- The accessors that a node holds. A computed property without any is the body of its getter. -/
def accessorBlockOf (src : Source) (n : Node) : Except ParseError AccessorBlock := do
  let accessors ← (n.parts.filterMap fun part =>
    (accessorKind? part.kind).map fun kind => (kind, part)).mapM
      fun (kind, part) => accessorOf src kind part
  if accessors.isEmpty && n.kind == "computed_property" then
    return ⟨[], some (src.block n.start n.stop)⟩
  else return ⟨accessors, none⟩

structure CaseParameterRun where
  names : List String
  types : List Node
  defaultValue : Option String

/-- One node more of an associated value: names stand before the type, a default value behind. -/
def CaseParameterRun.step (src : Source) (run : CaseParameterRun) (n : Node) : CaseParameterRun :=
  if run.types.isEmpty && n.isOf nameKinds then { run with names := run.names ++ [src.text n] }
  else if n.isOf typeKinds || n.isOf specifierKinds then { run with types := run.types ++ [n] }
  else if run.types.isEmpty then run
  else if n.kind == "!" then { run with types := run.types ++ [n] }
  else if n.named then { run with defaultValue := some (src.raw n) }
  else run

def caseParameterOf (src : Source) (first : Node) (group : List Node) :
    Except ParseError CaseParameter := do
  let run := group.foldl (CaseParameterRun.step src) ⟨[], [], none⟩
  match ← typesIn src run.types with
  | [] => throw (src.error first)
  | type :: _ =>
    return ⟨type, run.names[0]?, run.names[1]?, run.defaultValue, some (src.position first)⟩

/-- The nodes between commas, without parentheses and comments. -/
def commaGroups (ns : List Node) : List (List Node) :=
  (ns.filter fun n => !(n.isOf ["(", ")"] || n.isComment)).splitOnP (·.kind == ",")

def caseParametersOf (src : Source) (n : Node) : Except ParseError (List CaseParameter) :=
  (commaGroups n.children).foldlM
    (fun parameters group =>
      match group with
      | [] => .ok parameters
      | first :: _ => (caseParameterOf src first group).map fun p => parameters ++ [p])
    []

end SwiftDerive.Reading
