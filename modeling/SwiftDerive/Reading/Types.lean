import SwiftDerive.Grammar.Source
import SwiftDerive.Syntax.TypeRef

/-! # Reading types

Every node of a concrete tree is read at once in each of the ways in which a type may need it: as
a type, as a place of a tuple, and as the list of the types among its children. The readings of a
node are made of those of its children, and a failed reading matters only where it is asked for.
-/

namespace SwiftDerive.Reading

set_option autoImplicit false

open Grammar

def typeKinds : List String :=
  ["type_identifier", "user_type", "tuple_type", "tuple_type_item", "function_type", "array_type",
   "dictionary_type", "optional_type", "metatype", "opaque_type", "existential_type",
   "protocol_composition_type", "type_parameter_pack", "type_pack_expansion",
   "suppressed_constraint"]

def specifierKinds : List String :=
  ["type_modifiers", "parameter_modifiers", "parameter_modifier"]

def nameKinds : List String :=
  ["simple_identifier", "wildcard_pattern"]

def typeKeyword? (kind : String) : Option String :=
  match kind with
  | "opaque_type" => some "some"
  | "existential_type" => some "any"
  | "type_parameter_pack" => some "each"
  | "type_pack_expansion" => some "repeat"
  | _ => none

structure TypeReading where
  types : Except ParseError (List TypeRef)
  element : Except ParseError (TupleElement TypeRef)
  elements : Except ParseError (List (TupleElement TypeRef))
  type : Except ParseError TypeRef

structure ReadNode where
  node : Node
  reading : TypeReading

def ReadNode.isPart (r : ReadNode) : Bool := r.node.isPart

/-- The specifiers that a node holds: its parts, or itself when it has none. -/
def specifiersOf (src : Source) (n : Node) : List String :=
  let items := if n.kind == "parameter_modifier" then [] else n.parts
  (if items.isEmpty then [n] else items).map src.collapsed

/-- The first of the types, for the error of the node when there is none. -/
def firstType (src : Source) (n : Node) : List TypeRef → Except ParseError TypeRef
  | [] => .error (src.error n)
  | t :: _ => .ok t

/-- The types of a row of nodes so far, and the specifiers that wait for the next. -/
structure TypeRun where
  types : List TypeRef
  specifiers : List String

def modifyLast {α : Type} (f : α → α) : List α → List α
  | [] => []
  | [x] => [f x]
  | x :: y :: rest => x :: modifyLast f (y :: rest)

/-- One node more: specifiers wait for the next type, an exclamation mark makes the last type an
implicitly unwrapped optional, and any other named node but a comment ends the waiting. -/
def TypeRun.step (src : Source) (run : TypeRun) (r : ReadNode) : Except ParseError TypeRun :=
  if r.node.isOf specifierKinds then
    .ok { run with specifiers := run.specifiers ++ specifiersOf src r.node }
  else if r.node.isOf typeKinds then
    match r.reading.type with
    | .ok t => .ok ⟨run.types ++ [t.attributedWith run.specifiers], []⟩
    | .error e => .error e
  -- The specifiers of the last type are inside the optional from here on.
  else if r.node.kind == "!" && !r.node.named && !run.types.isEmpty then
    .ok { run with types := modifyLast (TypeRef.optional · true) run.types }
  else if r.isPart then .ok { run with specifiers := [] }
  else .ok run

/-- The types in a row of nodes, each behind the specifiers before it. -/
def typesAmong (src : Source) (nodes : List ReadNode) : Except ParseError (List TypeRef) :=
  (nodes.foldlM (TypeRun.step src) ⟨[], []⟩).map TypeRun.types

def effectsAmong (src : Source) (nodes : List ReadNode) : Except ParseError Effects :=
  nodes.foldlM
    (fun effects r =>
      if r.node.kind == "async" then .ok { effects with isAsync := true }
      else if r.node.isOf ["throws", "rethrows"] then
        match r.reading.types with
        | .ok types => .ok
          { effects with
            throwsKeyword := some
              (if (src.text r.node).startsWith "rethrows" then "rethrows" else "throws")
            thrown := types.head? }
        | .error e => .error e
      else .ok effects)
    Effects.empty

/-- A node as one place of a tuple: its names, its first type and the variadic mark. -/
def elementOf (src : Source) (n : Node) (children : List ReadNode)
    (types : Except ParseError (List TypeRef)) : Except ParseError (TupleElement TypeRef) := do
  let names := (children.filter (·.node.isOf nameKinds)).map fun r => src.text r.node
  let type ← firstType src n (← types)
  return ⟨type, names[0]?, names[1]?, children.any (·.node.kind == "...")⟩

def plainElement (t : TypeRef) : TupleElement TypeRef := ⟨t, none, none, false⟩

/-- A node as the places of a tuple. Without items, the types among its children are the places. -/
def elementsOf (n : Node) (children : List ReadNode)
    (types : Except ParseError (List TypeRef))
    (element : Except ParseError (TupleElement TypeRef)) :
    Except ParseError (List (TupleElement TypeRef)) :=
  if n.kind == "tuple_type_item" then element.map ([·])
  else
    let items := children.filter fun r => r.isPart && r.node.kind == "tuple_type_item"
    if items.isEmpty then types.map (List.map plainElement)
    else items.mapM (·.reading.element)

/-- A tuple; a single place with a type and nothing else is that type in parentheses. -/
def tupleOf : List (TupleElement TypeRef) → TypeRef
  | [⟨type, none, _, false⟩] => type
  | elements => .tuple elements

/-- One part more of a path such as `A<B>.C`. -/
def pathStep (src : Source) (path : Option TypeRef) (r : ReadNode) :
    Except ParseError (Option TypeRef) :=
  match r.node.kind, path with
  | "type_identifier", none => .ok (some (.named (src.text r.node) []))
  | "type_identifier", some base =>
    let name := src.text r.node
    .ok (some (if name == "Type" || name == "Protocol" then .metatype base name
      else .member base name []))
  | "type_arguments", some base => r.reading.types.map fun types => some (base.withArguments types)
  | _, path => .ok path

/-- A function type: its arguments are the first part of the node, and its result is the last type
that starts behind them. -/
def functionOf (src : Source) (n : Node) (children : List ReadNode) : Except ParseError TypeRef :=
  match children.filter ReadNode.isPart with
  | [] => .error (src.error n)
  | arguments :: _ => do
    let parameters ←
      if arguments.node.isOf ["tuple_type", "tuple_type_item"] then arguments.reading.elements
      else arguments.reading.type.map fun t => [plainElement t]
    let behind := children.filter fun r => arguments.node.stop ≤ r.node.start
    match (← typesAmong src behind).getLast? with
    | none => .error (src.error n)
    | some result => do
      let effects ← effectsAmong src children
      return .function parameters result effects.isAsync effects.isThrowing effects.thrown

/-- A composition, nested ones being joined. A lone `any` or `some` before the first type is taken
for the whole. -/
def compositionOf (src : Source) (n : Node) (types : List TypeRef) : Except ParseError TypeRef :=
  let members : List TypeRef := types.flatMap fun
    | .composition inner => inner
    | t => [t]
  match members with
  | [] => .error (src.error n)
  | .attributed [specifier] base :: rest =>
    if specifier == "any" || specifier == "some" then
      .ok (.attributed [specifier] (.composition (base :: rest)))
    else .ok (.composition members)
  | members => .ok (.composition members)

/-- A node as a type. A node of no known kind is named by its text. -/
def typeOf (src : Source) (n : Node) (children : List ReadNode)
    (types : Except ParseError (List TypeRef))
    (element : Except ParseError (TupleElement TypeRef))
    (elements : Except ParseError (List (TupleElement TypeRef))) : Except ParseError TypeRef :=
  match typeKeyword? n.kind with
  | some keyword => do return (← firstType src n (← types)).attributedWith [keyword]
  | none =>
    match n.kind with
    | "type_identifier" => .ok (.named (src.text n) [])
    | "suppressed_constraint" => .ok (.named (Text.eraseBlanks (src.text n)) [])
    | "user_type" => do
      match ← (children.filter ReadNode.isPart).foldlM (pathStep src) none with
      | some t => return t
      | none => throw (src.error n)
    | "tuple_type" => elements.map tupleOf
    | "tuple_type_item" => element.map fun e => tupleOf [e]
    | "function_type" => functionOf src n children
    | "array_type" => do return .array (← firstType src n (← types))
    | "dictionary_type" => do
      match ← types with
      | key :: value :: _ => return .dictionary key value
      | _ => throw (src.error n)
    | "optional_type" => do
      let t ← firstType src n (← types)
      return (children.filter (·.node.kind == "?")).foldl (fun t _ => .optional t false) t
    | "metatype" => do
      let base ← firstType src n (← types)
      return .metatype base
        (if children.getLast?.any (·.node.kind == "Protocol") then "Protocol" else "Type")
    | "protocol_composition_type" => do compositionOf src n (← types)
    | _ => .ok (.named (src.collapsed n) [])

def readingOf (src : Source) (n : Node) (children : List ReadNode) : TypeReading :=
  let types := typesAmong src children
  let element := elementOf src n children types
  let elements := elementsOf n children types element
  { types, element, elements, type := typeOf src n children types element elements }

mutual

def readNode (src : Source) (n : Node) : TypeReading :=
  match n with
  | ⟨_, _, _, _, _, _, _, children⟩ => readingOf src n (readNodes src children)

def readNodes (src : Source) : List Node → List ReadNode
  | [] => []
  | n :: ns => ⟨n, readNode src n⟩ :: readNodes src ns

end

theorem readNode_eq (src : Source) (n : Node) :
    readNode src n = readingOf src n (readNodes src n.children) := by
  cases n
  simp only [readNode]

theorem readNodes_eq_map (src : Source) (ns : List Node) :
    readNodes src ns = ns.map fun n => ⟨n, readNode src n⟩ := by
  induction ns with
  | nil => rfl
  | cons n ns ih => simp only [readNodes, ih, List.map_cons]

def typeAt (src : Source) (n : Node) : Except ParseError TypeRef :=
  (readNode src n).type

def typesIn (src : Source) (ns : List Node) : Except ParseError (List TypeRef) :=
  typesAmong src (readNodes src ns)

def effectsOf (src : Source) (n : Node) : Except ParseError Effects :=
  effectsAmong src (readNodes src n.children)

end SwiftDerive.Reading
