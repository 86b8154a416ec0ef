import SwiftDerive.Command.Expand
import SwiftDerive.Requirement
import SwiftDerive.TaggedUnion.Codec

/-! # Inspecting a file

The requirements that the members of a file's types give, the check of them by a compiler, and the
wire formats of its tagged unions.
-/

namespace SwiftDerive

set_option autoImplicit false

open Interchange

namespace Inspect

mutual

/-- A type declaration and those inside it, each under the names of the types around it. -/
def typesOf (scope : List String) : Decl → List (String × TypeHeader × List Decl)
  | .type header members =>
    (".".intercalate (scope ++ [header.name]), header, members) ::
      typesIn (scope ++ [header.name]) members
  | _ => []

def typesIn (scope : List String) : List Decl → List (String × TypeHeader × List Decl)
  | [] => []
  | d :: ds => typesOf scope d ++ typesIn scope ds

end

def isInspected (kind : TypeKind) : Bool :=
  [TypeKind.structType, .classType, .actorType].contains kind

inductive Finding where
  | refused (typeName : String) (error : SignatureError)
  | requirement (typeName memberName : String) (decl : Decl)

/-- The finding on a member of a type; members without signature have none. -/
def finding? (typeName : String) (member : Decl) : Option Finding :=
  match Signature.ofDecl member with
  | .error e => some (.refused typeName e)
  | .ok none => none
  | .ok (some s) => some (.requirement typeName s.name (Requirement.ofSignature [] s))

def findings (file : SourceFile) : List Finding :=
  (typesIn [] file.declarations).flatMap fun (typeName, header, members) =>
    if isInspected header.kind then members.filterMap (finding? typeName) else []

def refusal (path : Path) (typeName : String) (e : SignatureError) : String :=
  path.render ++ ": " ++ typeName ++ ": " ++ e.message ++ "\n"

structure Row where
  typeName : String
  memberName : String
  requirement : String
  deriving DecidableEq, Repr

/-- The rows of a report, the messages with it, and the number of members that have problems. -/
structure Report (α : Type) where
  rows : List α
  messages : String
  problems : Nat

def Report.empty {α : Type} : Report α := ⟨[], "", 0⟩

def Report.append {α : Type} (a b : Report α) : Report α :=
  ⟨a.rows ++ b.rows, a.messages ++ b.messages, a.problems + b.problems⟩

def Report.status {α : Type} (r : Report α) : ExitStatus :=
  if r.problems = 0 then .success else .problems

def requirementText (path : Path) (decl : Decl) : Except Failure String :=
  decl.render.mapError (.unprintable path)

def listed (path : Path) : Finding → Except Failure (Report Row)
  | .refused typeName e => .ok ⟨[], refusal path typeName e, 1⟩
  | .requirement typeName memberName decl => do
    return ⟨[⟨typeName, memberName, ← requirementText path decl⟩], "", 0⟩

def Row.toJson (r : Row) : Json :=
  .object [("type", .string r.typeName), ("member", .string r.memberName),
    ("requirement", .string r.requirement)]

def sourceAt (grammar : GrammarReader) (tree : Entry) (path : Path) :
    Except Failure SourceFile := do
  let found ← (Discovery.requireFile tree path).mapError .discovery
  Expand.readFile grammar found

def requirements (grammar : GrammarReader) (tree : Entry) (path : Path) (asJson : Bool) :
    Outcome :=
  let report : Except Failure (Report Row) := do
    let file ← sourceAt grammar tree path
    let parts ← (findings file).mapM (listed path)
    return parts.foldl Report.append Report.empty
  match report with
  | .error failure => failure.outcome tree ""
  | .ok report =>
    let output :=
      if asJson then
        .text (Expand.printedJson (.object [("requirements", many Row.toJson report.rows)]))
      else
        .table ["type", "member", "requirement"]
          (report.rows.map fun r => [r.typeName, r.memberName, r.requirement])
    ⟨report.status, output, report.messages, tree⟩

def codecAttribute : String := "EnumCodable"

def schema? (header : TypeHeader) (members : List Decl) : Option Json :=
  if header.attributes.any (·.name == codecAttribute) then
    (TaggedUnion.Codec.ofDecl (.type header members)).toOption.map (·.describe)
  else none

/-- The wire formats of a file; of equal names the last counts. -/
def schemas (file : SourceFile) : List (String × Json) :=
  mergeEntries ((typesIn [] file.declarations).filterMap fun (typeName, header, members) =>
    (schema? header members).map fun schema => (typeName, schema))

def wireSchema (grammar : GrammarReader) (tree : Entry) (path : Path) : Outcome :=
  match sourceAt grammar tree path with
  | .error failure => failure.outcome tree ""
  | .ok file =>
    match schemas file with
    | [] =>
      ⟨.problems, .nothing, "No @" ++ codecAttribute ++ " enums found in " ++ path.render ++ "\n",
        tree⟩
    | found => ⟨.success, .text (Expand.printedJson (.object found)), "", tree⟩

structure CheckedRow where
  typeName : String
  requirement : String
  status : String
  deriving DecidableEq, Repr

def checked (launch : Launcher) (compiler : String) (path : Path) :
    Finding → Except Failure (Report CheckedRow)
  | .refused typeName e => .ok ⟨[], refusal path typeName e, 1⟩
  | .requirement typeName memberName decl => do
    let source ← (Validation.sourceOf decl).mapError (.unprintable path)
    let result ← (Validation.ofSource launch compiler source).mapError (.noLauncher compiler)
    let text ← requirementText path decl
    if result.ok then return ⟨[⟨typeName, text, "ok"⟩], "", 0⟩
    else
      return ⟨[⟨typeName, text, "exit " ++ toString result.exitCode⟩],
        typeName ++ "." ++ memberName ++ ":\n" ++ result.messages ++ "\n", 1⟩

/-- The report on findings in order, and the failure that ended it. -/
def checkedAll (launch : Launcher) (compiler : String) (path : Path) :
    List Finding → Report CheckedRow × Option Failure
  | [] => (Report.empty, none)
  | finding :: later =>
    match checked launch compiler path finding with
    | .error failure => (Report.empty, some failure)
    | .ok first =>
      let (report, failure) := checkedAll launch compiler path later
      (first.append report, failure)

def validate (grammar : GrammarReader) (launch : Launcher) (tree : Entry) (path : Path)
    (compiler : String) : Outcome :=
  match sourceAt grammar tree path with
  | .error failure => failure.outcome tree ""
  | .ok file =>
    match checkedAll launch compiler path (findings file) with
    | (report, some failure) => failure.outcome tree report.messages
    | (report, none) =>
      ⟨report.status,
        .table ["type", "requirement", "status"]
          (report.rows.map fun r => [r.typeName, r.requirement, r.status]),
        report.messages, tree⟩

end Inspect

end SwiftDerive
