import SwiftDerive.Mock.Dependency
import SwiftDerive.Syntax.Layout
import SwiftDerive.TaggedUnion.Members

/-! # Expansion

A generator is attached to a declaration by an attribute of its name. It gives new members of the
declaration, new declarations beside it and conformances, which become extensions behind the
top-level declaration. Expansion keeps the rest of a file as it is, and takes the attributes away.
-/

namespace SwiftDerive

set_option autoImplicit false

structure Conformance where
  type : TypeRef
  whereClause : Option WhereClause

/-- A generator. It is given the attribute and the declaration without the attributes of
generators. -/
structure Generator where
  members : Attribute → Decl → Reporting (List Decl)
  peers : Attribute → Decl → Reporting (List Decl)
  conformances : Attribute → Decl → Reporting (List Conformance)

abbrev Registry := String → Option Generator

def Reporting.dependency (a : Attribute) (d : Decl) : Reporting Mock.Dependency :=
  match Mock.Dependency.ofDecl a.position d with
  | .ok dependency => .result dependency
  | .error problem => .abort [problem]

def Generator.autoDependency : Generator where
  members _ _ := .result []
  peers a d := do return (← Reporting.dependency a d).artifacts
  conformances a d := do return [⟨(← Reporting.dependency a d).conformance, none⟩]

def Generator.enumCodable : Generator where
  members _ d := TaggedUnion.generate d
  peers _ _ := .result []
  conformances _ d := .result ((TaggedUnion.conformances d).map fun type => ⟨type, none⟩)

def Registry.builtIn : Registry
  | "AutoDependency" => some .autoDependency
  | "EnumCodable" => some .enumCodable
  | _ => none

structure Generated where
  members : List Decl
  peers : List Decl
  conformances : List Conformance

/-- What one attribute gives, members first. -/
def Generator.run (g : Generator) (a : Attribute) (d : Decl) : Reporting Generated := do
  let members ← g.members a d
  let peers ← g.peers a d
  let conformances ← g.conformances a d
  return { members, peers, conformances }

/-- The outcome of expansion: declarations, the extensions that wait for the end of the top-level
declaration, diagnostics, and the number of attributes that gave anything. -/
structure Expansion where
  decls : List Decl
  extensions : List Decl
  diagnostics : List Diagnostic
  count : Nat

namespace Expansion

def empty : Expansion := ⟨[], [], [], 0⟩

def append (a b : Expansion) : Expansion :=
  ⟨a.decls ++ b.decls, a.extensions ++ b.extensions, a.diagnostics ++ b.diagnostics,
    a.count + b.count⟩

instance : Append Expansion := ⟨append⟩

/-- The extensions put behind the declarations. -/
def flush (e : Expansion) : Expansion :=
  ⟨e.decls ++ e.extensions, [], e.diagnostics, e.count⟩

end Expansion

structure Additions where
  members : List Decl
  peers : List Decl
  extensions : List Decl
  diagnostics : List Diagnostic
  count : Nat

namespace Additions

def empty : Additions := ⟨[], [], [], [], 0⟩

def append (a b : Additions) : Additions :=
  ⟨a.members ++ b.members, a.peers ++ b.peers, a.extensions ++ b.extensions,
    a.diagnostics ++ b.diagnostics, a.count + b.count⟩

/-- The additions of one attribute to the type of the given name. An aborted one adds diagnostics
only. -/
def ofRun (typeName : String) (run : Reporting Generated) : Additions :=
  match run.outcome with
  | .error _ => { empty with diagnostics := run.diagnostics }
  | .ok g => {
      members := g.members
      peers := g.peers
      extensions := g.conformances.map fun c =>
        Construct.conformanceExtension typeName c.type c.whereClause
      diagnostics := run.diagnostics
      count := if g.members.isEmpty && g.peers.isEmpty && g.conformances.isEmpty then 0 else 1 }

end Additions

/-- The name of a declaration; empty for one without. -/
def Decl.name : Decl → String
  | .function d => d.name
  | .type header _ => header.name
  | _ => ""

namespace Registry

def names (registry : Registry) (a : Attribute) : Bool := (registry a.name).isSome

def strip (registry : Registry) (d : Decl) : Decl :=
  d.withAttributes (d.attributes.filter fun a => !registry.names a)

def additions (registry : Registry) (scope : List String) (d : Decl) : Additions :=
  let stripped := registry.strip d
  let typeName := ".".intercalate (scope ++ [d.name])
  d.attributes.foldl
    (fun sum a =>
      match registry a.name with
      | none => sum
      | some g => sum.append (.ofRun typeName (g.run a stripped)))
    Additions.empty

def attach (registry : Registry) (scope : List String) (d : Decl) (inner : Expansion) :
    Expansion :=
  let added := registry.additions scope d
  let kept :=
    match registry.strip d with
    | .type header _ => .type header (inner.decls ++ added.members)
    | other => other
  ⟨kept :: added.peers, inner.extensions ++ added.extensions,
    inner.diagnostics ++ added.diagnostics, inner.count + added.count⟩

mutual

/-- The expansion of a declaration inside the types of `scope`, members first. -/
def expandDecl (registry : Registry) (scope : List String) (d : Decl) : Expansion :=
  match d with
  | .type header members =>
    registry.attach scope (.type header members)
      (registry.expandMembers (scope ++ [header.name]) members)
  | d => registry.attach scope d Expansion.empty

def expandMembers (registry : Registry) (scope : List String) : List Decl → Expansion
  | [] => Expansion.empty
  | d :: ds => registry.expandDecl scope d ++ registry.expandMembers scope ds

end

/-- The expansion of top-level declarations, each followed by its extensions. -/
def expandFile (registry : Registry) : List Decl → Expansion
  | [] => Expansion.empty
  | d :: ds => (registry.expandDecl [] d).flush ++ registry.expandFile ds

end Registry

def Expansion.hasErrors (e : Expansion) : Bool :=
  e.diagnostics.any (·.message.severity = .error)

end SwiftDerive
