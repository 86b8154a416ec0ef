import SwiftDerive.Signature
import SwiftDerive.Syntax.Construct

/-! # Requirements of protocols

The declaration without body by which a protocol asks for a member of a given signature.
-/

namespace SwiftDerive.Requirement

set_option autoImplicit false

/-- The modifiers that mean something on a requirement. -/
def keptModifiers : List String :=
  ["static", "mutating", "nonmutating", "nonisolated"]

def modifierName (m : Modifier) : String :=
  if m.name == "class" then "static" else m.name

def keepsModifier (excluded : List String) (m : Modifier) : Bool :=
  m.detail.isNone && !excluded.contains (modifierName m) && keptModifiers.contains (modifierName m)

/-- The modifiers of a requirement: those that mean something, each once. -/
def modifiers (excluded : List String) (ms : List Modifier) : List Modifier :=
  ((ms.filter (keepsModifier excluded)).map modifierName).eraseDups.map fun name => ⟨name, none⟩

def declaredLabel (label : Option String) : String :=
  match label with
  | none => "_"
  | some label => if label.isEmpty then "_" else label

/-- The internal name where it differs from the label. -/
def secondName (label internalName : Option String) : Option String :=
  if label.isNone then internalName
  else if internalName == label then none
  else internalName

def parameter (p : SignatureParameter) : Parameter where
  firstName := declaredLabel p.label
  type := p.type
  secondName := secondName p.label p.internalName
  variadic := p.variadic
  defaultValue := none
  attributes := []

def throwsKeyword (isThrowing : Bool) : Option String :=
  if isThrowing then some "throws" else none

def ofFunction (excluded : List String) (s : FunctionSignature) : FunctionDecl where
  name := s.name
  parameters := s.parameters.map parameter
  effects := ⟨s.isAsync, throwsKeyword s.isThrowing, s.thrown⟩
  result := s.result
  genericParameters := s.genericParameters
  whereClause := s.whereClause
  body := none
  attributes := s.attributes
  modifiers := modifiers excluded s.modifiers
  position := none

/-- Whether an attribute of a property stays on its requirement: those for availability and actors
do, property wrappers do not. -/
def keepsAttribute (a : Attribute) : Bool :=
  ["available", "objc", "MainActor"].contains a.name || a.name.endsWith "Actor"

def ofProperty (excluded : List String) (s : PropertySignature) : VariableDecl :=
  let getter := Construct.accessor "get" none ⟨s.isAsync, throwsKeyword s.isThrowing, none⟩
  let setter := Construct.accessor "set" none Effects.empty
  Construct.computedVariable s.name s.type (if s.getOnly then [getter] else [getter, setter])
    (s.attributes.filter keepsAttribute) (modifiers excluded s.modifiers)

def ofSignature (excluded : List String) : Signature → Decl
  | .function s => .function (ofFunction excluded s)
  | .property s => .variable (ofProperty excluded s)

end SwiftDerive.Requirement
