import SwiftDerive.Signature
import SwiftDerive.TaggedUnion.Case

/-! # Syntax trees as data

Every node of syntax is an object that names its kind under `node` and has one entry for each of its
parts. What is missing is null, and a place is the list of its line and column.
-/

namespace SwiftDerive

set_option autoImplicit false

namespace Interchange

def node (kind : String) (entries : List (String × Json)) : Json :=
  .object (("node", .string kind) :: entries)

def optional {α : Type} (toJson : α → Json) : Option α → Json
  | none => .null
  | some a => toJson a

def optionalText : Option String → Json := optional .string

def many {α : Type} (toJson : α → Json) (items : List α) : Json :=
  .array (items.map toJson)

end Interchange

open Interchange

def Position.toJson (p : Position) : Json := .array [.int p.line, .int p.column]

namespace TypeRef

mutual

def toJson : TypeRef → Json
  | .named name arguments =>
    node "NamedType" [("name", .string name), ("arguments", .array (toJsonAll arguments))]
  | .member base name arguments =>
    node "MemberType" [("base", base.toJson), ("name", .string name),
      ("arguments", .array (toJsonAll arguments))]
  | .optional wrapped implicitlyUnwrapped =>
    node "OptionalType" [("wrapped", wrapped.toJson),
      ("implicitly_unwrapped", .bool implicitlyUnwrapped)]
  | .array element => node "ArrayType" [("element", element.toJson)]
  | .dictionary key value =>
    node "DictionaryType" [("key", key.toJson), ("value", value.toJson)]
  | .tuple elements => node "TupleType" [("elements", .array (elementsToJson elements))]
  | .function parameters result isAsync isThrowing thrown =>
    node "FunctionType" [("parameters", .array (elementsToJson parameters)),
      ("return_type", result.toJson), ("is_async", .bool isAsync),
      ("is_throwing", .bool isThrowing), ("thrown_type", thrownToJson thrown)]
  | .attributed specifiers base =>
    node "AttributedType" [("specifiers", many .string specifiers), ("base", base.toJson)]
  | .composition types => node "CompositionType" [("types", .array (toJsonAll types))]
  | .metatype base kind => node "MetatypeType" [("base", base.toJson), ("kind", .string kind)]

def toJsonAll : List TypeRef → List Json
  | [] => []
  | t :: ts => t.toJson :: toJsonAll ts

def elementsToJson : List (TupleElement TypeRef) → List Json
  | [] => []
  | ⟨type, label, secondName, variadic⟩ :: es =>
    node "TupleTypeElement" [("type", type.toJson), ("label", optionalText label),
      ("second_name", optionalText secondName), ("variadic", .bool variadic)] :: elementsToJson es

def thrownToJson : Option TypeRef → Json
  | none => .null
  | some t => t.toJson

end

end TypeRef

def Attribute.toJson (a : Attribute) : Json :=
  node "Attribute" [("name", .string a.name), ("arguments", optionalText a.arguments),
    ("position", optional Position.toJson a.position)]

def Modifier.toJson (m : Modifier) : Json :=
  node "Modifier" [("name", .string m.name), ("detail", optionalText m.detail)]

def GenericParameter.toJson (p : GenericParameter) : Json :=
  node "GenericParameter" [("name", .string p.name),
    ("constraint", optional TypeRef.toJson p.constraint)]

def WhereRequirement.toJson (r : WhereRequirement) : Json :=
  node "WhereRequirement" [("left", r.left.toJson), ("relation", .string r.relation),
    ("right", r.right.toJson)]

def WhereClause.toJson (c : WhereClause) : Json :=
  node "GenericWhereClause" [("requirements", many WhereRequirement.toJson c.requirements)]

def Parameter.toJson (p : Parameter) : Json :=
  node "Parameter" [("first_name", .string p.firstName), ("type", p.type.toJson),
    ("second_name", optionalText p.secondName), ("variadic", .bool p.variadic),
    ("default", optionalText p.defaultValue), ("attributes", many Attribute.toJson p.attributes)]

def Effects.toJson (e : Effects) : Json :=
  node "EffectSpecifiers" [("is_async", .bool e.isAsync),
    ("throws_keyword", optionalText e.throwsKeyword),
    ("thrown_type", optional TypeRef.toJson e.thrown)]

def CaseParameter.toJson (p : CaseParameter) : Json :=
  node "EnumCaseParameter" [("type", p.type.toJson), ("first_name", optionalText p.firstName),
    ("second_name", optionalText p.secondName), ("default", optionalText p.defaultValue),
    ("position", optional Position.toJson p.position)]

def CaseElement.toJson (e : CaseElement) : Json :=
  node "EnumCaseElement" [("name", .string e.name),
    ("parameters", optional (many CaseParameter.toJson) e.parameters),
    ("raw_value", optionalText e.rawValue), ("position", optional Position.toJson e.position)]

namespace Interchange

def decorations (attributes : List Attribute) (modifiers : List Modifier)
    (position : Option Position) : List (String × Json) :=
  [("attributes", many Attribute.toJson attributes), ("modifiers", many Modifier.toJson modifiers),
    ("position", optional Position.toJson position)]

def genericClause (parameters : List GenericParameter) (whereClause : Option WhereClause) :
    List (String × Json) :=
  [("generic_parameters", many GenericParameter.toJson parameters),
    ("where_clause", optional WhereClause.toJson whereClause)]

end Interchange

mutual

def Statement.toJson : Statement → Json
  | .raw text => node "RawStatement" [("text", .string text)]
  | .branch subject cases =>
    node "SwitchStatement" [("subject", .string subject),
      ("cases", .array (SwitchCase.toJsonAll cases))]
  | .block statements =>
    node "CodeBlock" [("statements", .array (Statement.toJsonAll statements))]
  | .decl d => d.toJson
  | .unprintable _ data => data

def Statement.toJsonAll : List Statement → List Json
  | [] => []
  | s :: ss => s.toJson :: Statement.toJsonAll ss

def Statement.bodyToJson : Option Statement → Json
  | none => .null
  | some body => body.toJson

def SwitchCase.toJson : SwitchCase → Json
  | ⟨label, statements⟩ =>
    node "SwitchCase" [("label", .string label),
      ("statements", .array (Statement.toJsonAll statements))]

def SwitchCase.toJsonAll : List SwitchCase → List Json
  | [] => []
  | c :: cs => c.toJson :: SwitchCase.toJsonAll cs

def Accessor.toJson : Accessor → Json
  | ⟨kind, effects, body, parameter, modifiers⟩ =>
    node "Accessor" [("kind", .string kind), ("effects", effects.toJson),
      ("body", Statement.bodyToJson body), ("parameter", optionalText parameter),
      ("modifiers", many Modifier.toJson modifiers)]

def Accessor.toJsonAll : List Accessor → List Json
  | [] => []
  | a :: accessors => a.toJson :: Accessor.toJsonAll accessors

def AccessorBlock.toJson : Option AccessorBlock → Json
  | none => .null
  | some ⟨accessors, implicitGetter⟩ =>
    node "AccessorBlock" [("accessors", .array (Accessor.toJsonAll accessors)),
      ("implicit_getter", Statement.bodyToJson implicitGetter)]

def Binding.toJsonAll : List Binding → List Json
  | [] => []
  | ⟨pattern, type, initialValue, accessorBlock⟩ :: bindings =>
    node "PatternBinding" [("pattern", .string pattern),
      ("type_annotation", optional TypeRef.toJson type),
      ("initializer", optionalText initialValue),
      ("accessor_block", AccessorBlock.toJson accessorBlock)] :: Binding.toJsonAll bindings

def FunctionDecl.toJson (d : FunctionDecl) : Json :=
  match d with
  | ⟨name, parameters, effects, result, genericParameters, whereClause, body, attributes,
      modifiers, position⟩ =>
    node "FunctionDecl" ([("name", .string name),
      ("parameters", many Parameter.toJson parameters), ("effects", effects.toJson),
      ("return_type", optional TypeRef.toJson result), ("body", Statement.bodyToJson body)] ++
      genericClause genericParameters whereClause ++ decorations attributes modifiers position)

def InitializerDecl.toJson (d : InitializerDecl) : Json :=
  match d with
  | ⟨parameters, effects, body, optionalMark, genericParameters, whereClause, attributes,
      modifiers, position⟩ =>
    node "InitializerDecl" ([("parameters", many Parameter.toJson parameters),
      ("effects", effects.toJson), ("body", Statement.bodyToJson body),
      ("optional_mark", optionalText optionalMark)] ++
      genericClause genericParameters whereClause ++ decorations attributes modifiers position)

def VariableDecl.toJson (d : VariableDecl) : Json :=
  match d with
  | ⟨keyword, bindings, attributes, modifiers, position⟩ =>
    node "VariableDecl" ([("binding_keyword", .string keyword),
      ("bindings", .array (Binding.toJsonAll bindings))] ++
      decorations attributes modifiers position)

def Decl.toJson : Decl → Json
  | .function d => d.toJson
  | .initializer d => d.toJson
  | .variable d => d.toJson
  | .enumCase d =>
    node "EnumCaseDecl" (("elements", many CaseElement.toJson d.elements) ::
      decorations d.attributes d.modifiers d.position)
  | .type h members =>
    node "TypeDecl" ([("kind", .string h.kind.keyword), ("name", .string h.name),
      ("members", .array (Decl.toJsonAll members)),
      ("inheritance", many TypeRef.toJson h.inheritance)] ++
      genericClause h.genericParameters h.whereClause ++
      decorations h.attributes h.modifiers h.position)
  | .raw text position =>
    node "RawDecl" [("text", .string text), ("position", optional Position.toJson position)]
  | .statement s => s.toJson
  | .file declarations =>
    node "SourceFile" [("declarations", .array (Decl.toJsonAll declarations))]

def Decl.toJsonAll : List Decl → List Json
  | [] => []
  | d :: ds => d.toJson :: Decl.toJsonAll ds

end

def SourceFile.toJson (f : SourceFile) : Json :=
  node "SourceFile" [("declarations", .array (Decl.toJsonAll f.declarations))]

def SignatureParameter.toJson (p : SignatureParameter) : Json :=
  node "SignatureParameter" [("label", optionalText p.label),
    ("internal_name", optionalText p.internalName), ("type", p.type.toJson),
    ("variadic", .bool p.variadic)]

def Signature.toJson : Signature → Json
  | .function s =>
    node "MemberSignature" ([("name", .string s.name),
      ("parameters", many SignatureParameter.toJson s.parameters), ("is_async", .bool s.isAsync),
      ("is_throwing", .bool s.isThrowing), ("return_type", optional TypeRef.toJson s.result),
      ("throws_keyword", optionalText s.throwsKeyword),
      ("thrown_type", optional TypeRef.toJson s.thrown),
      ("attributes", many Attribute.toJson s.attributes),
      ("modifiers", many Modifier.toJson s.modifiers)] ++
      genericClause s.genericParameters s.whereClause)
  | .property s =>
    node "PropertyRequirement" [("name", .string s.name), ("type", s.type.toJson),
      ("get_only", .bool s.getOnly), ("is_async", .bool s.isAsync),
      ("is_throwing", .bool s.isThrowing), ("attributes", many Attribute.toJson s.attributes),
      ("modifiers", many Modifier.toJson s.modifiers)]

def TaggedUnion.CaseSpec.toJson (c : CaseSpec) : Json :=
  node "EnumCaseSpec" [("name", .string c.name),
    ("payload", optional
      (many fun f => node "PayloadField" [("label", .string f.label), ("type", f.type.toJson)])
      c.payload)]

end SwiftDerive
