import SwiftDerive.Diagnostic
import SwiftDerive.Mock.Slot
import SwiftDerive.Requirement
import SwiftDerive.Syntax.TypeText
import SwiftDerive.Visibility

/-! # Dependencies

From a struct, class or actor a protocol is derived that asks for its exposed members, and a mock
that implements the protocol by closures. The type itself gets the conformance to the protocol.
-/

namespace SwiftDerive.Mock

set_option autoImplicit false

inductive DependencyKind where
  | value | reference | actor
  deriving DecidableEq, Repr

namespace DependencyKind

def ofTypeKind? : TypeKind → Option DependencyKind
  | .structType => some .value
  | .classType => some .reference
  | .actorType => some .actor
  | _ => none

def typeKind : DependencyKind → TypeKind
  | .value => .structType
  | .reference => .classType
  | .actor => .actorType

/-- Modifiers that a requirement cannot carry. The mock of an actor reads its slots from isolated
state, so its members stay isolated. -/
def excludedModifiers : DependencyKind → List String
  | .value => []
  | .reference => ["mutating", "nonmutating"]
  | .actor => ["mutating", "nonmutating", "nonisolated"]

def protocolBase : DependencyKind → List TypeRef
  | .value => []
  | .reference => [.named "AnyObject" []]
  | .actor => [.named "Actor" []]

end DependencyKind

/-- A type from which a protocol and a mock are derived. -/
structure Dependency where
  name : String
  kind : DependencyKind
  isPublic : Bool
  isShareable : Bool
  slots : List Slot

def placeholder : String := "unimplemented()"

def shareableMarker : TypeRef := .named "Sendable" []

def isShareableMarker : TypeRef → Bool
  | .named name _ => name == "Sendable"
  | .attributed _ (.named name _) => name == "Sendable"
  | _ => false

def analyzeMember (member : Decl) : Except Diagnostic (Option Signature) :=
  match Signature.ofDecl member with
  | .error .missingBinding =>
    .error ((Message.missingBinding member.describe).at member.position)
  | .error (.missingType name) =>
    .error ((Message.missingType
      (if name.isEmpty then member.describe else "'" ++ name ++ "'")).at member.position)
  | .ok none => .ok none
  | .ok (some s) =>
    -- A `some` inside the type is not looked for.
    if s.resultType?.any (·.hasSpecifier "some") then
      .error ((Message.opaqueResultType ("'" ++ s.name ++ "'")).at member.position)
    else .ok (some s)

/-- The signatures of the members in order, or the first problem. -/
def analyzeMembers : List Decl → Except Diagnostic (List Signature)
  | [] => .ok []
  | member :: members =>
    match analyzeMember member with
    | .error e => .error e
    | .ok s =>
      match analyzeMembers members with
      | .error e => .error e
      | .ok ss => .ok (s.toList ++ ss)

/-- The dependency that a declaration is, or the problem with it. A declaration of the wrong kind is
a problem of the attribute at `attachment`. -/
def Dependency.ofDecl (attachment : Option Position) (d : Decl) : Except Diagnostic Dependency :=
  let refused : Except Diagnostic Dependency :=
    .error ((Message.unsupportedType d.describe).at attachment)
  match d with
  | .type header members =>
    match DependencyKind.ofTypeKind? header.kind with
    | none => refused
    | some kind =>
      match analyzeMembers (members.filter (Decl.isExposed d.isPublic)) with
      | .error e => .error e
      | .ok signatures => .ok {
          name := header.name
          kind
          isPublic := d.isPublic
          isShareable := header.inheritance.any isShareableMarker
          slots := assignSlots signatures }
  | _ => refused

/-- The call by which a member of a mock passes its arguments on to its slot. -/
structure ForwardingCall where
  isAsync : Bool
  isThrowing : Bool
  property : String
  /-- The arguments, each with whether it is passed in place. -/
  arguments : List (Bool × String)
  /-- The type to which the result is cast back. -/
  cast : Option TypeRef

def effectPrefix (isAsync isThrowing : Bool) : String :=
  (if isThrowing then "try " else "") ++ (if isAsync then "await " else "")

def ForwardingCall.render (call : ForwardingCall) : String :=
  effectPrefix call.isAsync call.isThrowing ++ call.property ++ "(" ++
    commaSeparated (call.arguments.map fun a => if a.1 then "&" ++ a.2 else a.2) ++ ")" ++
    (match call.cast with
      | none => ""
      | some type => " as! " ++ type.render)

/-- The name of a parameter inside a forwarding function; one without a name is numbered. -/
def forwardedName (index : Nat) (p : SignatureParameter) : String :=
  match p.internalName with
  | none => "arg" ++ toString index
  | some name => if name.isEmpty then "arg" ++ toString index else name

def forwardedParameter (index : Nat) (p : SignatureParameter) : Parameter where
  firstName := Requirement.declaredLabel p.label
  type := p.type
  secondName :=
    if p.label = some (forwardedName index p) then none else some (forwardedName index p)
  variadic := p.variadic
  defaultValue := none
  attributes := []

def mapIndexed {α β : Type} (f : Nat → α → β) (items : List α) : List β :=
  items.zipIdx.map fun item => f item.2 item.1

def forwardingCall (slot : Slot) (s : FunctionSignature) : ForwardingCall where
  isAsync := s.isAsync
  isThrowing := s.isThrowing
  property := slot.property
  arguments := mapIndexed (fun index p => (p.isInout, forwardedName index p)) s.parameters
  cast := s.result.filter (·.mentions (s.genericParameters.map GenericParameter.name))

namespace Dependency

def protocolName (d : Dependency) : String := d.name ++ "Protocol"

def mockName (d : Dependency) : String := d.name ++ "Mock"

def memberModifiers (d : Dependency) (s : Signature) : List Modifier :=
  (if d.isPublic then [⟨"public", none⟩] else []) ++
    Requirement.modifiers d.kind.excludedModifiers s.modifiers

def protocolDecl (d : Dependency) : Decl :=
  .type
    (Construct.typeHeader .protocolType d.protocolName
      (d.kind.protocolBase ++ if d.isShareable then [shareableMarker] else [])
      (if d.isPublic then ["public"] else []) [])
    (d.slots.map fun slot => Requirement.ofSignature d.kind.excludedModifiers slot.signature)

def forwardingFunction (d : Dependency) (slot : Slot) (s : FunctionSignature) : FunctionDecl where
  name := s.name
  parameters := mapIndexed forwardedParameter s.parameters
  effects := ⟨s.isAsync, Requirement.throwsKeyword s.isThrowing, s.thrown⟩
  result := s.result
  genericParameters := s.genericParameters
  whereClause := s.whereClause
  body := some (Construct.codeOf ["return " ++ (forwardingCall slot s).render])
  attributes := s.attributes
  modifiers := d.memberModifiers (.function s)
  position := none

def forwardingProperty (d : Dependency) (slot : Slot) (s : PropertySignature) : VariableDecl :=
  let getter := Construct.accessor "get"
    (some (Construct.codeOf
      ["return " ++ effectPrefix s.isAsync s.isThrowing ++ slot.property ++ "()"]))
    ⟨s.isAsync, Requirement.throwsKeyword s.isThrowing, none⟩
  let setter := Construct.accessor "set"
    (some (Construct.codeOf [slot.property ++ " = \x7b newValue \x7d"])) Effects.empty
  Construct.computedVariable s.name s.type (if s.getOnly then [getter] else [getter, setter]) []
    (d.memberModifiers (.property s))

def forwardingMember (d : Dependency) (slot : Slot) : Decl :=
  match slot.signature with
  | .function s => .function (d.forwardingFunction slot s)
  | .property s => .variable (d.forwardingProperty slot s)

def slotVariable (slot : Slot) : Decl :=
  .variable
    (Construct.storedVariable slot.property (slotType slot.signature) (some placeholder) [])

def initializer (d : Dependency) : InitializerDecl where
  parameters := d.slots.map fun slot => {
    firstName := slot.name
    type := .attributed ["@escaping"] (slotType slot.signature)
    secondName := none
    variadic := false
    defaultValue := some placeholder
    attributes := [] }
  effects := Effects.empty
  body := some (Construct.codeOf
    (d.slots.map fun slot => "self." ++ slot.property ++ " = " ++ slot.name))
  optionalMark := none
  genericParameters := []
  whereClause := none
  attributes := []
  modifiers := Construct.modifiers [if d.isPublic then "public" else ""]
  position := none

def mockInheritance (d : Dependency) : List TypeRef :=
  .named d.protocolName [] ::
    if d.isShareable && d.kind != .actor then [.attributed ["@unchecked"] shareableMarker] else []

/-- The visibility of the mock; a class is open so that it can be refined. -/
def mockModifiers (d : Dependency) : List String :=
  if !d.isPublic then [] else if d.kind = .reference then ["open"] else ["public"]

/-- The mock: for each slot its stored property and the member that forwards to it, and at the end
the initializer. -/
def mockDecl (d : Dependency) : Decl :=
  .type (Construct.typeHeader d.kind.typeKind d.mockName d.mockInheritance d.mockModifiers [])
    (d.slots.flatMap (fun slot => [slotVariable slot, d.forwardingMember slot]) ++
      [.initializer d.initializer])

def artifacts (d : Dependency) : List Decl := [d.protocolDecl, d.mockDecl]

def conformance (d : Dependency) : TypeRef := .named d.protocolName []

end Dependency

end SwiftDerive.Mock
