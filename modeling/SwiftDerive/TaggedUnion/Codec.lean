import SwiftDerive.Json.Reader
import SwiftDerive.Json.Writer
import SwiftDerive.Syntax.TypeText
import SwiftDerive.TaggedUnion.Case

/-! # The wire format

A value of a tagged union is written as an object with the name of its case under `type` and every
associated value under its label. Names and labels stand without backticks.
-/

namespace SwiftDerive.TaggedUnion

set_option autoImplicit false

inductive WireError where
  /-- A key is missing, in a case of the given name if the case is known. -/
  | keyNotFound (key : String) (caseName : Option String)
  | unknownDiscriminator (value : Json) (known : List String)
  | invalidJson (reason : String)
  | notAnObject
  | notAnEnum (name : String)

def WireError.message : WireError → String
  | .keyNotFound key caseName =>
    "No value associated with key '" ++ key ++ "'" ++
      (match caseName with
        | none => ""
        | some name => if name.isEmpty then "" else " for case '" ++ name ++ "'")
  | .unknownDiscriminator value known =>
    "Cannot initialize SubType from invalid value " ++ value.literal ++ " (expected one of " ++
      commaSeparated known ++ ")"
  | .invalidJson reason => "Invalid JSON: " ++ reason
  | .notAnObject => "Tagged-union payload must be a JSON object"
  | .notAnEnum name => "'" ++ name ++ "' is not an enum"

structure EnumValue where
  caseName : String
  payload : List (String × Json)

structure Codec where
  cases : List (String × CaseSpec)

namespace Codec

/-- The codec of a list of cases; of cases with the same name on the wire the last counts. -/
def ofCases (cases : List CaseSpec) : Codec :=
  ⟨mergeEntries (cases.map fun c => (Text.plainName c.name, c))⟩

def ofDecl : Decl → Except WireError Codec
  | .type header members =>
    if header.kind = .enumType then .ok (ofCases (validCases members))
    else .error (.notAnEnum header.name)
  | _ => .error (.notAnEnum "")

def discriminators (codec : Codec) : List String :=
  codec.cases.map Prod.fst

def find (codec : Codec) (value : Json) : Except WireError CaseSpec :=
  let refused : Except WireError CaseSpec :=
    .error (.unknownDiscriminator value codec.discriminators)
  match value with
  | .string name => ((codec.cases.lookup name).map Except.ok).getD refused
  | _ => refused

def labels (c : CaseSpec) : List String :=
  c.fields.map fun f => Text.plainName f.label

/-- The values under the labels, put in front of those so far; every label must be there. -/
def collect (caseName : String) (source : List (String × Json)) :
    List String → List (String × Json) → Except WireError (List (String × Json))
  | [], entries => .ok entries
  | label :: labels, entries =>
    match source.lookup label with
    | none => .error (.keyNotFound label (some caseName))
    | some value => collect caseName source labels (putEntry label value entries)

def encode (codec : Codec) (value : EnumValue) : Except WireError (List (String × Json)) := do
  let c ← codec.find (.string value.caseName)
  let name := Text.plainName c.name
  collect name value.payload (labels c) [(discriminatorKey, .string name)]

/-- The value of a wire form. Keys that the case does not have are passed over. -/
def decode (codec : Codec) (data : List (String × Json)) : Except WireError EnumValue :=
  match data.lookup discriminatorKey with
  | none => .error (.keyNotFound discriminatorKey none)
  | some tag => do
    let c ← codec.find tag
    let name := Text.plainName c.name
    return ⟨name, ← collect name data (labels c) []⟩

def dumps (codec : Codec) (indent : Option Nat) (value : EnumValue) : Except WireError String := do
  return (Json.object (← codec.encode value)).write indent 0

def loads (codec : Codec) (text : String) : Except WireError EnumValue :=
  match Json.read text with
  | .error reason => .error (.invalidJson reason)
  | .ok (.object data) => codec.decode data
  | .ok _ => .error .notAnObject

/-- The format as a value: the key of the discriminator, and the labels and types of each case. -/
def describe (codec : Codec) : Json :=
  .object [
    ("discriminator", .string discriminatorKey),
    ("cases", .object (codec.cases.map fun (name, c) =>
      (name, .array (c.fields.map fun f =>
        .object [("label", .string (Text.plainName f.label)), ("type", .string f.type.render)]))))]

end Codec

/-- Whether two lists of entries have the same values under the same keys, in whatever order. -/
def sameEntries (as bs : List (String × Json)) : Bool :=
  as.length == bs.length && as.all fun (key, value) => bs.lookup key == some value

def EnumValue.same (a b : EnumValue) : Bool :=
  a.caseName == b.caseName && sameEntries a.payload b.payload

end SwiftDerive.TaggedUnion
