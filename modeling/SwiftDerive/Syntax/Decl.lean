import SwiftDerive.Json.Basic
import SwiftDerive.Syntax.TypeRef

/-! # Declarations

The declarations that are read from a source file and generated for one. Bodies and initial values
are kept as text; what no generator looks into is kept whole, as a raw declaration. Statements and
declarations may hold each other.
-/

namespace SwiftDerive

set_option autoImplicit false

/-- A place in a source text; lines and columns count from one. -/
structure Position where
  line : Int
  column : Int
  deriving DecidableEq, Repr

def Position.render (p : Position) : String :=
  toString p.line ++ ":" ++ toString p.column

structure Attribute where
  name : String
  arguments : Option String
  position : Option Position
  deriving DecidableEq

/-- A modifier, with a detail in parentheses if it has one, as `private(set)`. -/
structure Modifier where
  name : String
  detail : Option String
  deriving DecidableEq

structure GenericParameter where
  name : String
  constraint : Option TypeRef
  deriving DecidableEq

/-- A requirement of a `where` clause: a conformance, `:`, or an equality of types, `==`. -/
structure WhereRequirement where
  left : TypeRef
  relation : String
  right : TypeRef
  deriving DecidableEq

structure WhereClause where
  requirements : List WhereRequirement
  deriving DecidableEq

/-- A parameter of a function or initializer. The first name is the argument label, `_` for none;
the second is the internal name where it differs. -/
structure Parameter where
  firstName : String
  type : TypeRef
  secondName : Option String
  variadic : Bool
  defaultValue : Option String
  attributes : List Attribute
  deriving DecidableEq

def Parameter.label (p : Parameter) : Option String :=
  if p.firstName = "_" then none else some p.firstName

def Parameter.internalName (p : Parameter) : Option String :=
  let name := p.secondName.getD p.firstName
  if name = "_" then none else some name

structure Effects where
  isAsync : Bool
  throwsKeyword : Option String
  thrown : Option TypeRef
  deriving DecidableEq

def Effects.empty : Effects := ⟨false, none, none⟩

def Effects.isThrowing (e : Effects) : Bool := e.throwsKeyword.isSome

structure CaseParameter where
  type : TypeRef
  firstName : Option String
  secondName : Option String
  defaultValue : Option String
  position : Option Position

structure CaseElement where
  name : String
  parameters : Option (List CaseParameter)
  rawValue : Option String
  position : Option Position

structure CaseDecl where
  elements : List CaseElement
  attributes : List Attribute
  modifiers : List Modifier
  position : Option Position

inductive TypeKind where
  | structType | classType | actorType | enumType | protocolType | extensionType
  deriving DecidableEq, Repr

def TypeKind.keyword : TypeKind → String
  | .structType => "struct"
  | .classType => "class"
  | .actorType => "actor"
  | .enumType => "enum"
  | .protocolType => "protocol"
  | .extensionType => "extension"

def TypeKind.ofKeyword? (keyword : String) : Option TypeKind :=
  [structType, classType, actorType, enumType, protocolType, extensionType].find?
    (·.keyword == keyword)

/-- All of a type declaration but its members. -/
structure TypeHeader where
  kind : TypeKind
  name : String
  genericParameters : List GenericParameter
  inheritance : List TypeRef
  whereClause : Option WhereClause
  attributes : List Attribute
  modifiers : List Modifier
  position : Option Position

mutual

inductive Statement where
  | raw (text : String)
  | branch (subject : String) (cases : List SwitchCase)
  | block (statements : List Statement)
  | decl (decl : Decl)
  /-- Something of the given kind that is no statement, as data; it has no printed form. -/
  | unprintable (kind : String) (data : Json)

/-- One case of a `switch`; the label is the text after `case`. -/
structure SwitchCase where
  label : String
  statements : List Statement

structure Accessor where
  kind : String
  effects : Effects
  body : Option Statement
  parameter : Option String
  modifiers : List Modifier

/-- The accessors of a property, or the body of the getter of a read-only one. -/
structure AccessorBlock where
  accessors : List Accessor
  implicitGetter : Option Statement

structure Binding where
  pattern : String
  type : Option TypeRef
  initialValue : Option String
  accessorBlock : Option AccessorBlock

structure FunctionDecl where
  name : String
  parameters : List Parameter
  effects : Effects
  result : Option TypeRef
  genericParameters : List GenericParameter
  whereClause : Option WhereClause
  body : Option Statement
  attributes : List Attribute
  modifiers : List Modifier
  position : Option Position

structure InitializerDecl where
  parameters : List Parameter
  effects : Effects
  body : Option Statement
  optionalMark : Option String
  genericParameters : List GenericParameter
  whereClause : Option WhereClause
  attributes : List Attribute
  modifiers : List Modifier
  position : Option Position

structure VariableDecl where
  keyword : String
  bindings : List Binding
  attributes : List Attribute
  modifiers : List Modifier
  position : Option Position

/-- A declaration. Statements and whole files may stand among declarations. -/
inductive Decl where
  | function (decl : FunctionDecl)
  | initializer (decl : InitializerDecl)
  | variable (decl : VariableDecl)
  | enumCase (decl : CaseDecl)
  | type (header : TypeHeader) (members : List Decl)
  | raw (text : String) (position : Option Position)
  | statement (statement : Statement)
  | file (declarations : List Decl)

end

instance : Inhabited Statement := ⟨.raw ""⟩

instance : Inhabited Decl := ⟨.raw "" none⟩

structure SourceFile where
  declarations : List Decl

namespace Decl

def modifiers : Decl → List Modifier
  | .function d => d.modifiers
  | .initializer d => d.modifiers
  | .variable d => d.modifiers
  | .enumCase d => d.modifiers
  | .type header _ => header.modifiers
  | .raw .. | .statement _ | .file _ => []

def attributes : Decl → List Attribute
  | .function d => d.attributes
  | .initializer d => d.attributes
  | .variable d => d.attributes
  | .enumCase d => d.attributes
  | .type header _ => header.attributes
  | .raw .. | .statement _ | .file _ => []

def position : Decl → Option Position
  | .function d => d.position
  | .initializer d => d.position
  | .variable d => d.position
  | .enumCase d => d.position
  | .type header _ => header.position
  | .raw _ p => p
  | .statement _ | .file _ => none

def withAttributes (attributes : List Attribute) : Decl → Decl
  | .function d => .function { d with attributes }
  | .initializer d => .initializer { d with attributes }
  | .variable d => .variable { d with attributes }
  | .enumCase d => .enumCase { d with attributes }
  | .type header members => .type { header with attributes } members
  | d => d

/-- The names of the modifiers that have no detail. -/
def plainModifiers (d : Decl) : List String :=
  d.modifiers.filterMap fun m => if m.detail.isNone then some m.name else none

def hasModifier (names : List String) (d : Decl) : Bool :=
  d.plainModifiers.any names.contains

def describe : Decl → String
  | .type header _ => header.kind.keyword ++ " declaration"
  | .function _ => "function declaration"
  | .initializer _ => "initializer declaration"
  | .variable _ => "variable declaration"
  | .enumCase _ => "enum case declaration"
  | .raw .. | .statement _ | .file _ => "declaration"

end Decl

end SwiftDerive
