import SwiftDerive.Proofs.Nesting
import SwiftDerive.Proofs.TypeNames
import SwiftDerive.Requirement

/-! # Free type names

The type names that occur in the types of a declaration and that no generic clause around them binds.
Bodies and initial values are text and have none.
-/

namespace SwiftDerive

set_option autoImplicit false

def freeIn (bound : List String) (types : List TypeRef) : List String :=
  (types.flatMap TypeRef.typeNames).filter fun name => !bound.contains name

theorem mem_freeIn_iff {bound : List String} {types : List TypeRef} {name : String} :
    name ∈ freeIn bound types ↔ (∃ t ∈ types, name ∈ t.typeNames) ∧ name ∉ bound := by
  rw [freeIn, List.mem_filter, List.mem_flatMap, Bool.not_eq_true', ← Bool.not_eq_true,
    List.contains_iff_mem]

def clauseTypes (parameters : List GenericParameter) (whereClause : Option WhereClause) :
    List TypeRef :=
  parameters.filterMap GenericParameter.constraint ++
    ((whereClause.map WhereClause.requirements).getD []).flatMap fun r => [r.left, r.right]

def boundNames (parameters : List GenericParameter) : List String :=
  parameters.map GenericParameter.name

/-! ## Declarations -/

def FunctionDecl.types (f : FunctionDecl) : List TypeRef :=
  f.parameters.map Parameter.type ++ f.result.toList ++ f.effects.thrown.toList ++
    clauseTypes f.genericParameters f.whereClause

def InitializerDecl.types (i : InitializerDecl) : List TypeRef :=
  i.parameters.map Parameter.type ++ i.effects.thrown.toList ++
    clauseTypes i.genericParameters i.whereClause

def AccessorBlock.types (block : AccessorBlock) : List TypeRef :=
  block.accessors.filterMap fun a => a.effects.thrown

def Binding.types (b : Binding) : List TypeRef :=
  b.type.toList ++ ((b.accessorBlock.map AccessorBlock.types).getD [])

def VariableDecl.types (v : VariableDecl) : List TypeRef :=
  v.bindings.flatMap Binding.types

def CaseDecl.types (c : CaseDecl) : List TypeRef :=
  c.elements.flatMap fun e => (e.parameters.getD []).map CaseParameter.type

def TypeHeader.types (header : TypeHeader) : List TypeRef :=
  header.inheritance ++ clauseTypes header.genericParameters header.whereClause

namespace Decl

mutual

def freeNames : Decl → List String
  | .function f => freeIn (boundNames f.genericParameters) f.types
  | .initializer i => freeIn (boundNames i.genericParameters) i.types
  | .variable v => freeIn [] v.types
  | .enumCase c => freeIn [] c.types
  | .type header members =>
    freeIn (boundNames header.genericParameters) header.types ++
      (freeNamesAll members).filter fun name => !(boundNames header.genericParameters).contains name
  | .file decls => freeNamesAll decls
  | .raw _ _ | .statement _ => []

def freeNamesAll : List Decl → List String
  | [] => []
  | d :: ds => d.freeNames ++ freeNamesAll ds

end

theorem freeNamesAll_eq_flatMap (ds : List Decl) : freeNamesAll ds = ds.flatMap freeNames := by
  induction ds with
  | nil => rfl
  | cons d ds ih => rw [freeNamesAll, ih, List.flatMap_cons]

theorem mem_freeNames_type_iff {header : TypeHeader} (hPlain : header.genericParameters = [])
    {members : List Decl} {name : String} :
    name ∈ (Decl.type header members).freeNames ↔
      (∃ t ∈ header.types, name ∈ t.typeNames) ∨ ∃ member ∈ members, name ∈ member.freeNames := by
  rw [freeNames, List.mem_append, mem_freeIn_iff, freeNamesAll_eq_flatMap, List.mem_filter,
    List.mem_flatMap, hPlain]
  simp [boundNames]

end Decl

/-! ## Signatures -/

def FunctionSignature.types (s : FunctionSignature) : List TypeRef :=
  s.parameters.map SignatureParameter.type ++ s.result.toList ++ s.thrown.toList ++
    clauseTypes s.genericParameters s.whereClause

def Signature.freeNames : Signature → List String
  | .function s => freeIn (boundNames s.genericParameters) s.types
  | .property s => freeIn [] [s.type]

theorem freeNames_computedVariable (name : String) (type : TypeRef) {getter setter : Accessor}
    (hGetter : getter.effects.thrown = none) (hSetter : setter.effects.thrown = none)
    (getOnly : Bool) (attributes : List Attribute) (modifiers : List Modifier) :
    (Decl.variable (Construct.computedVariable name type
      (if getOnly then [getter] else [getter, setter]) attributes modifiers)).freeNames =
        freeIn [] [type] := by
  cases getOnly with
  | true =>
    simp [Decl.freeNames, VariableDecl.types, Construct.computedVariable, Construct.singleBinding,
      Binding.types, AccessorBlock.types, hGetter]
  | false =>
    simp [Decl.freeNames, VariableDecl.types, Construct.computedVariable, Construct.singleBinding,
      Binding.types, AccessorBlock.types, hGetter, hSetter]

theorem freeNames_requirement (excluded : List String) (s : Signature) :
    (Requirement.ofSignature excluded s).freeNames = s.freeNames := by
  cases s with
  | function s =>
    have hParameters : (s.parameters.map Requirement.parameter).map Parameter.type =
        s.parameters.map SignatureParameter.type := by
      rw [List.map_map]
      rfl
    rw [Requirement.ofSignature, Decl.freeNames, Signature.freeNames, FunctionDecl.types,
      FunctionSignature.types, Requirement.ofFunction, hParameters]
  | property s =>
    exact freeNames_computedVariable s.name s.type rfl rfl s.getOnly _ _

end SwiftDerive
