import SwiftDerive.Syntax.Decl

/-! # Diagnostics

Problems that generators report to the user. A message has a stable identifier inside a domain; a
diagnostic is a message at a place. A computation may report diagnostics and go on, or abort with
diagnostics of its own.
-/

namespace SwiftDerive

set_option autoImplicit false

inductive Severity where
  | error | warning | note
  deriving DecidableEq, Repr

def Severity.name : Severity → String
  | .error => "error"
  | .warning => "warning"
  | .note => "note"

structure Message where
  text : String
  domain : String
  key : String
  severity : Severity
  deriving DecidableEq, Repr

structure Diagnostic where
  message : Message
  position : Option Position
  deriving DecidableEq, Repr

def Message.at (m : Message) (position : Option Position) : Diagnostic := ⟨m, position⟩

/-- The text `line:column: severity: message [domain.key]`. -/
def Diagnostic.render (d : Diagnostic) : String :=
  (match d.position with
    | some p => p.render
    | none => "?:?") ++
  ": " ++ d.message.severity.name ++ ": " ++ d.message.text ++
  " [" ++ d.message.domain ++ "." ++ d.message.key ++ "]"

def Diagnostic.joined (ds : List Diagnostic) : String :=
  "; ".intercalate (ds.map (·.message.text))

namespace Message

def dependency (key text : String) : Message := ⟨text, "macrogen.dependency", key, .error⟩

def enumCodable (key text : String) : Message := ⟨text, "macrogen.enum-codable", key, .error⟩

def unsupportedType (kind : String) : Message :=
  dependency "unsupported-type" ("AutoDependency cannot be applied to " ++ kind)

def missingBinding (member : String) : Message :=
  dependency "missing-binding" ("Property " ++ member ++ " must declare exactly one binding")

def missingType (member : String) : Message :=
  dependency "missing-type-annotation"
    ("Property " ++ member ++ " needs an explicit type annotation")

def opaqueResultType (member : String) : Message :=
  dependency "opaque-result-type"
    ("Member " ++ member ++
      " returns an opaque 'some' type, which a protocol requirement cannot declare")

def notEnum : Message :=
  enumCodable "enum-codable" "EnumCodable can only be applied to enums"

def unsupportedCaseValueType : Message :=
  enumCodable "enum-case-value-type" "Associated value type is not supported"

def missingCaseLabel : Message :=
  enumCodable "enum-case-value-missing-label" "Associated value in enum case is missing a label"

def reservedCaseLabel : Message :=
  enumCodable "enum-case-value-reserved-label"
    "Associated value label 'type' is reserved for the discriminator"

end Message

/-- A computation that reports diagnostics and either gives a result or aborts with diagnostics. -/
structure Reporting (α : Type) where
  reported : List Diagnostic
  outcome : Except (List Diagnostic) α

namespace Reporting

def result {α : Type} (a : α) : Reporting α := ⟨[], .ok a⟩

def abort {α : Type} (ds : List Diagnostic) : Reporting α := ⟨[], .error ds⟩

/-- One computation after the other; nothing runs after an abort. -/
def andThen {α β : Type} (x : Reporting α) (f : α → Reporting β) : Reporting β :=
  match x.outcome with
  | .error ds => ⟨x.reported, .error ds⟩
  | .ok a => ⟨x.reported ++ (f a).reported, (f a).outcome⟩

instance : Monad Reporting where
  pure := result
  bind := andThen

/-- All diagnostics in order, those of an abort at the end. -/
def diagnostics {α : Type} (x : Reporting α) : List Diagnostic :=
  match x.outcome with
  | .error ds => x.reported ++ ds
  | .ok _ => x.reported

end Reporting

end SwiftDerive
