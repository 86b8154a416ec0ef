import SwiftDerive.Syntax.Decl
import SwiftDerive.Unicode.Word

/-! # Signatures of members

What a function or a property promises to its callers, freed of how it is written.
-/

namespace SwiftDerive

set_option autoImplicit false

structure SignatureParameter where
  label : Option String
  internalName : Option String
  type : TypeRef
  variadic : Bool
  deriving DecidableEq

def SignatureParameter.isInout (p : SignatureParameter) : Bool :=
  p.type.hasSpecifier "inout"

structure FunctionSignature where
  name : String
  parameters : List SignatureParameter
  isAsync : Bool
  isThrowing : Bool
  result : Option TypeRef
  genericParameters : List GenericParameter
  whereClause : Option WhereClause
  throwsKeyword : Option String
  thrown : Option TypeRef
  attributes : List Attribute
  modifiers : List Modifier
  deriving DecidableEq

structure PropertySignature where
  name : String
  type : TypeRef
  getOnly : Bool
  isAsync : Bool
  isThrowing : Bool
  attributes : List Attribute
  modifiers : List Modifier
  deriving DecidableEq

inductive Signature where
  | function (signature : FunctionSignature)
  | property (signature : PropertySignature)
  deriving DecidableEq

namespace Signature

def name : Signature → String
  | .function s => s.name
  | .property s => s.name

def modifiers : Signature → List Modifier
  | .function s => s.modifiers
  | .property s => s.modifiers

def resultType? : Signature → Option TypeRef
  | .function s => s.result
  | .property s => some s.type

end Signature

inductive SignatureError where
  | missingBinding
  | missingType (name : String)
  deriving DecidableEq, Repr

def SignatureError.message : SignatureError → String
  | .missingBinding => "missing-binding: declaration"
  | .missingType name =>
    "missing-type-annotation: " ++ if name.isEmpty then "declaration" else "'" ++ name ++ "'"

/-- Whether a text is an identifier: a letter, an underscore or a dollar sign followed by word
characters and dollar signs, or any name in backticks. -/
def isIdentifier (text : String) : Bool :=
  match text.toList with
  | [] => false
  | '\x60' :: rest =>
    rest.getLast? == some '\x60' && rest.length ≥ 2 && !rest.dropLast.contains '\x60'
  | c :: rest =>
    (c.isAlpha || c == '_' || c == '$') && rest.all fun c => Unicode.isWord c || c == '$'

namespace Signature

def ofFunction (d : FunctionDecl) : FunctionSignature where
  name := d.name
  parameters := d.parameters.map fun p => ⟨p.label, p.internalName, p.type, p.variadic⟩
  isAsync := d.effects.isAsync
  isThrowing := d.effects.isThrowing
  result := d.result
  genericParameters := d.genericParameters
  whereClause := d.whereClause
  throwsKeyword := d.effects.throwsKeyword
  thrown := d.effects.thrown
  attributes := d.attributes
  modifiers := d.modifiers

/-- Whether a modifier keeps the setter to a part of the program. -/
def restrictsSetter (m : Modifier) : Bool :=
  ["private", "fileprivate", "internal", "package"].contains m.name && m.detail == some "set"

/-- Whether a property with these accessors cannot be set: none of them sets, and they do not just
watch a stored value. -/
def lacksSetter (block : AccessorBlock) : Bool :=
  let kinds := block.accessors.map (·.kind)
  if block.implicitGetter.isSome then true
  else if !kinds.isEmpty && kinds.all ["willSet", "didSet"].contains then false
  else !kinds.any ["set", "_modify", "unsafeMutableAddress"].contains

def getterEffects (block : Option AccessorBlock) : Effects :=
  match block with
  | none => Effects.empty
  | some block =>
    match block.accessors.find? fun a => ["get", "_read", "unsafeAddress"].contains a.kind with
    | some getter => getter.effects
    | none => Effects.empty

def isGetOnly (d : VariableDecl) (b : Binding) : Bool :=
  d.keyword == "let" || d.modifiers.any restrictsSetter || b.accessorBlock.any lacksSetter

def ofVariable (d : VariableDecl) : Except SignatureError PropertySignature :=
  match d.bindings with
  | [b] =>
    if isIdentifier b.pattern then
      match b.type with
      | none => .error (.missingType b.pattern)
      | some type =>
        let effects := getterEffects b.accessorBlock
        .ok {
          name := b.pattern
          type
          getOnly := isGetOnly d b
          isAsync := effects.isAsync
          isThrowing := effects.isThrowing
          attributes := d.attributes
          modifiers := d.modifiers }
    else .error .missingBinding
  | _ => .error .missingBinding

/-- The signature of a member; only functions and properties have one. -/
def ofDecl : Decl → Except SignatureError (Option Signature)
  | .function d => .ok (some (.function (ofFunction d)))
  | .variable d => (ofVariable d).map fun s => some (.property s)
  | _ => .ok none

end Signature

def FunctionSignature.functionType (s : FunctionSignature) : TypeRef :=
  .function (s.parameters.map fun p => ⟨p.type, none, none, p.variadic⟩)
    (s.result.getD TypeRef.void) s.isAsync s.isThrowing s.thrown

def PropertySignature.getterType (s : PropertySignature) : TypeRef :=
  .function [] s.type s.isAsync s.isThrowing none

end SwiftDerive
