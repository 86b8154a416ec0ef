import SwiftDerive.Syntax.Construct
import SwiftDerive.Syntax.TypeText
import SwiftDerive.TaggedUnion.Case
import SwiftDerive.Visibility

/-! # Generated codecs

The members that make an enum write and read itself as a tagged union: the enum of the case names,
the enum of the keys, a function that encodes and an initializer that decodes. What a branch of
either does is a list of keyed writes or reads, from which its statements are written.
-/

namespace SwiftDerive.TaggedUnion

set_option autoImplicit false

def discriminatorEnum : String := "SubType"

def keysEnum : String := "CodingKeys"

/-- What is written: the name of a case, or the value that is bound to a name. -/
inductive Operand where
  | caseName (name : String)
  | bound (name : String)
  deriving DecidableEq, Repr

def Operand.render : Operand → String
  | .caseName name => discriminatorEnum ++ "." ++ name
  | .bound name => name

structure KeyedWrite where
  value : Operand
  key : String
  deriving DecidableEq, Repr

def KeyedWrite.render (w : KeyedWrite) : String :=
  "try container.encode(" ++ w.value.render ++ ", forKey: ." ++ w.key ++ ")"

structure KeyedRead where
  name : String
  type : String
  key : String
  deriving DecidableEq, Repr

def KeyedRead.render (r : KeyedRead) : String :=
  "let " ++ r.name ++ " = try container.decode(" ++ r.type ++ ".self, forKey: ." ++ r.key ++ ")"

structure EncodeBranch where
  caseName : String
  bound : Option (List String)
  writes : List KeyedWrite
  deriving DecidableEq, Repr

structure DecodeBranch where
  caseName : String
  reads : List KeyedRead
  /-- The labels of the arguments and the names that are passed for them. -/
  arguments : Option (List (String × String))
  deriving DecidableEq, Repr

/-- How a case is encoded: its name first, then each value under its label. -/
def encodeBranch (c : CaseSpec) : EncodeBranch where
  caseName := c.name
  bound := c.payload.map fun fields => fields.map PayloadField.label
  writes := ⟨.caseName c.name, discriminatorKey⟩ :: c.fields.map fun f => ⟨.bound f.label, f.label⟩

def decodeBranch (c : CaseSpec) : DecodeBranch where
  caseName := c.name
  reads := c.fields.map fun f => ⟨f.label, f.type.render, f.label⟩
  arguments := c.payload.map fun fields => fields.map fun f => (f.label, f.label)

def caseText (name : String) (items : Option (List String)) : String :=
  "." ++ name ++
    match items with
    | none => ""
    | some items => "(" ++ commaSeparated items ++ ")"

def EncodeBranch.switchCase (b : EncodeBranch) : SwitchCase where
  label := caseText b.caseName (b.bound.map fun names => names.map ("let " ++ ·))
  statements := b.writes.map fun w => .raw w.render

def DecodeBranch.switchCase (b : DecodeBranch) : SwitchCase where
  label := caseText b.caseName none
  statements := (b.reads.map fun r => .raw r.render) ++
    [.raw ("self = " ++ caseText b.caseName
      (b.arguments.map fun arguments => arguments.map fun a => a.1 ++ ": " ++ a.2))]

def descending (names : List String) : List String :=
  names.mergeSort fun a b => decide (b ≤ a)

def discriminators (cases : List CaseSpec) : List String :=
  descending (cases.map CaseSpec.name)

/-- The key of the discriminator and the labels of all values, each once, last first. -/
def codingKeys (cases : List CaseSpec) : List String :=
  descending
    (discriminatorKey :: cases.flatMap fun c => c.fields.map PayloadField.label).eraseDups

/-- What the four members say: the names of the cases, the keys, how the cases are encoded, how the
name of the case is read and how the cases are decoded. -/
structure Outline where
  caseNames : List String
  keys : List String
  writers : List EncodeBranch
  tagRead : KeyedRead
  readers : List DecodeBranch
  deriving DecidableEq, Repr

def outline (cases : List CaseSpec) : Outline where
  caseNames := discriminators cases
  keys := codingKeys cases
  writers := cases.map encodeBranch
  tagRead := ⟨"subtype", discriminatorEnum, discriminatorKey⟩
  readers := cases.map decodeBranch

def namesEnum (name : String) (names : List String) (conformance : String)
    (modifierNames : List String) : Decl :=
  .type
    (Construct.typeHeader .enumType name [.named "String" [], .named conformance []] modifierNames
      [])
    [.enumCase (Construct.caseList names)]

def throwing : Effects := ⟨false, some "throws", none⟩

def labelledParameter (label name type : String) : Parameter :=
  ⟨label, .named type [], some name, false, none, []⟩

def Outline.encodeDecl (o : Outline) : FunctionDecl where
  name := "encode"
  parameters := [labelledParameter "to" "encoder" "Encoder"]
  effects := throwing
  result := none
  genericParameters := []
  whereClause := none
  body := some (.block
    [.raw ("var container = encoder.container(keyedBy: " ++ keysEnum ++ ".self)"),
      .branch "self" (o.writers.map EncodeBranch.switchCase)])
  attributes := []
  modifiers := Construct.modifiers ["public"]
  position := none

def Outline.decodeDecl (o : Outline) : InitializerDecl where
  parameters := [labelledParameter "from" "decoder" "Decoder"]
  effects := throwing
  body := some (.block [
    .raw ("let container = try decoder.container(keyedBy: " ++ keysEnum ++ ".self)"),
    .raw o.tagRead.render,
    .branch o.tagRead.name (o.readers.map DecodeBranch.switchCase)])
  optionalMark := none
  genericParameters := []
  whereClause := none
  attributes := []
  modifiers := Construct.modifiers ["public"]
  position := none

def Outline.members (o : Outline) (isPublic : Bool) : List Decl :=
  [namesEnum discriminatorEnum o.caseNames "Codable" (if isPublic then ["public"] else []),
    namesEnum keysEnum o.keys "CodingKey" ["private"],
    .function o.encodeDecl,
    .initializer o.decodeDecl]

/-- The members of an enum, with its other cases reported. For another declaration only that is
reported. -/
def generate (d : Decl) : Reporting (List Decl) :=
  match d with
  | .type header members =>
    if header.kind = .enumType then
      ⟨caseProblems members, .ok ((outline (validCases members)).members d.isPublic)⟩
    else ⟨[Message.notEnum.at header.position], .ok []⟩
  | d => ⟨[Message.notEnum.at d.position], .ok []⟩

/-- Whether inherited types make an enum codable already: by the name for both directions, or by
those of each. -/
def isCodable (inheritance : List TypeRef) : Bool :=
  let names := inheritance.filterMap fun
    | .named name _ => some name
    | _ => none
  names.contains "Codable" || (names.contains "Encodable" && names.contains "Decodable")

def conformances : Decl → List TypeRef
  | .type header _ =>
    if header.kind = .enumType && !isCodable header.inheritance then [.named "Codable" []] else []
  | _ => []

end SwiftDerive.TaggedUnion
