import SwiftDerive.Diagnostic
import SwiftDerive.Text.Names

/-! # Cases of a tagged union

The cases of an enum that have a place in the wire format: their associated values are labelled and
of plain types. The other cases are reported and left out.
-/

namespace SwiftDerive.TaggedUnion

set_option autoImplicit false

structure PayloadField where
  label : String
  type : TypeRef
  deriving DecidableEq

/-- A case; one without associated values has no payload. -/
structure CaseSpec where
  name : String
  payload : Option (List PayloadField)
  deriving DecidableEq

def CaseSpec.fields (c : CaseSpec) : List PayloadField :=
  c.payload.getD []

def discriminatorKey : String := "type"

def isSimple : TypeRef → Bool
  | .named _ arguments => arguments.isEmpty
  | .member base _ arguments => arguments.isEmpty && isSimple base
  | _ => false

def fieldOf (p : CaseParameter) : Except Message PayloadField :=
  if !isSimple p.type then .error .unsupportedCaseValueType
  else
    match p.firstName with
    | none => .error .missingCaseLabel
    | some label =>
      if label == "_" then .error .missingCaseLabel
      else if Text.plainName label == discriminatorKey then .error .reservedCaseLabel
      else .ok ⟨label, p.type⟩

/-- The labelled values that associated values are, or the first problem among them. -/
def fieldsOf : List CaseParameter → Except Diagnostic (List PayloadField)
  | [] => .ok []
  | p :: ps =>
    match fieldOf p with
    | .error m => .error (m.at p.position)
    | .ok field => (fieldsOf ps).map (field :: ·)

def specOf (e : CaseElement) : Except Diagnostic CaseSpec :=
  match e.parameters with
  | none => .ok ⟨e.name, none⟩
  | some parameters => (fieldsOf parameters).map fun fields => ⟨e.name, some fields⟩

def elementsOf (members : List Decl) : List CaseElement :=
  members.flatMap fun
    | .enumCase d => d.elements
    | _ => []

def outcomes (members : List Decl) : List (Except Diagnostic CaseSpec) :=
  (elementsOf members).map specOf

def validCases (members : List Decl) : List CaseSpec :=
  (outcomes members).filterMap Except.toOption

def caseProblems (members : List Decl) : List Diagnostic :=
  (outcomes members).filterMap fun
    | .error d => some d
    | .ok _ => none

end SwiftDerive.TaggedUnion
