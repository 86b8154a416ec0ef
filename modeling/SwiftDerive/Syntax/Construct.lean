import SwiftDerive.Syntax.Decl

/-! # Constructing declarations

Short ways to build the declarations that generators emit.
-/

namespace SwiftDerive.Construct

set_option autoImplicit false

/-- Modifiers without detail; empty names are left out. -/
def modifiers (names : List String) : List Modifier :=
  (names.filter fun name => !name.isEmpty).map fun name => ⟨name, none⟩

def codeOf (statements : List String) : Statement :=
  .block (statements.map Statement.raw)

def singleBinding (name : String) (type : TypeRef) (initialValue : Option String)
    (accessorBlock : Option AccessorBlock) (attributes : List Attribute)
    (modifiers : List Modifier) : VariableDecl where
  keyword := "var"
  bindings := [⟨name, some type, initialValue, accessorBlock⟩]
  attributes := attributes
  modifiers := modifiers
  position := none

def storedVariable (name : String) (type : TypeRef) (initialValue : Option String)
    (modifierNames : List String) : VariableDecl :=
  singleBinding name type initialValue none [] (modifiers modifierNames)

def accessor (kind : String) (body : Option Statement) (effects : Effects) : Accessor :=
  ⟨kind, effects, body, none, []⟩

/-- A property with accessors; without bodies they make it a requirement. -/
def computedVariable (name : String) (type : TypeRef) (accessors : List Accessor)
    (attributes : List Attribute) (modifiers : List Modifier) : VariableDecl :=
  singleBinding name type none (some ⟨accessors, none⟩) attributes modifiers

def caseList (names : List String) : CaseDecl where
  elements := names.map fun name => ⟨name, none, none, none⟩
  attributes := []
  modifiers := []
  position := none

def typeHeader (kind : TypeKind) (name : String) (inheritance : List TypeRef)
    (modifierNames : List String) (attributes : List Attribute) : TypeHeader where
  kind := kind
  name := name
  genericParameters := []
  inheritance := inheritance
  whereClause := none
  attributes := attributes
  modifiers := modifiers modifierNames
  position := none

def conformanceExtension (typeName : String) (conformance : TypeRef)
    (whereClause : Option WhereClause) : Decl :=
  .type { typeHeader .extensionType typeName [conformance] [] [] with whereClause } []

end SwiftDerive.Construct
