import SwiftDerive.Expansion

/-! # Expanded files with what was generated in them

An expanded file is the input with generated declarations put into it. The annotated form of a
declaration keeps both apart: it is laid out as the expansion, and without what was generated it is
the input, from which only the attributes of generators are gone.
-/

namespace SwiftDerive

set_option autoImplicit false

/-- What the attributes of one declaration gave, in order, with the name under which extensions
refer to the declaration. -/
structure Attached where
  typeName : String
  given : List Generated

namespace Attached

def members (a : Attached) : List Decl := a.given.flatMap Generated.members

def peers (a : Attached) : List Decl := a.given.flatMap Generated.peers

def extensions (a : Attached) : List Decl :=
  a.given.flatMap fun g => g.conformances.map fun c =>
    Construct.conformanceExtension a.typeName c.type c.whereClause

end Attached

/-- A declaration of the input in its expanded file, with what was generated for it. -/
inductive Annotated where
  | leaf (kept : Decl) (attached : Attached)
  | type (header : TypeHeader) (members : List Annotated) (attached : Attached)

namespace Annotated

mutual

/-- The declarations that stand in the place of the one of the input: the declaration itself, a type
with its generated members behind those of the input, then the peers. -/
def decls : Annotated → List Decl
  | .leaf kept attached => kept :: attached.peers
  | .type header members attached =>
    .type header (declsAll members ++ attached.members) :: attached.peers

def declsAll : List Annotated → List Decl
  | [] => []
  | a :: as => a.decls ++ declsAll as

end

mutual

def extensions : Annotated → List Decl
  | .leaf _ attached => attached.extensions
  | .type _ members attached => extensionsAll members ++ attached.extensions

def extensionsAll : List Annotated → List Decl
  | [] => []
  | a :: as => a.extensions ++ extensionsAll as

end

mutual

/-- What is left of the declaration when everything generated is deleted. -/
def kept : Annotated → Decl
  | .leaf kept _ => kept
  | .type header members _ => .type header (keptAll members)

def keptAll : List Annotated → List Decl
  | [] => []
  | a :: as => a.kept :: keptAll as

end

def fileDecls (as : List Annotated) : List Decl :=
  as.flatMap fun a => a.decls ++ a.extensions

end Annotated

namespace Registry

variable (registry : Registry)

/-- What one attribute gives for a declaration. Nothing comes of an attribute that is not in the
registry, or whose generator aborts. -/
def generated? (d : Decl) (a : Attribute) : Option Generated :=
  (registry a.name).bind fun g => (g.run a (registry.strip d)).outcome.toOption

def attached (scope : List String) (d : Decl) : Attached where
  typeName := ".".intercalate (scope ++ [d.name])
  given := d.attributes.filterMap (registry.generated? d)

def stripHeader (header : TypeHeader) : TypeHeader :=
  { header with attributes := header.attributes.filter fun a => !registry.names a }

mutual

def stripDeep : Decl → Decl
  | .type header members => .type (registry.stripHeader header) (stripAll members)
  | d => registry.strip d

def stripAll : List Decl → List Decl
  | [] => []
  | d :: ds => stripDeep d :: stripAll ds

end

mutual

def annotate (scope : List String) (d : Decl) : Annotated :=
  match d with
  | .type header members =>
    .type (registry.stripHeader header) (annotateAll (scope ++ [header.name]) members)
      (registry.attached scope (.type header members))
  | d => .leaf (registry.strip d) (registry.attached scope d)

def annotateAll (scope : List String) : List Decl → List Annotated
  | [] => []
  | d :: ds => annotate scope d :: annotateAll scope ds

end

/-! ## Additions -/

theorem part_foldl (part : Additions → List Decl) (give : Generated → List Decl)
    (typeName : String) (d : Decl)
    (hAppend : ∀ a b : Additions, part (a.append b) = part a ++ part b)
    (hError : ∀ run : Reporting Generated, ∀ ds, run.outcome = .error ds →
      part (.ofRun typeName run) = [])
    (hOk : ∀ run : Reporting Generated, ∀ g, run.outcome = .ok g →
      part (.ofRun typeName run) = give g)
    (attributes : List Attribute) (sum : Additions) :
    part (attributes.foldl (fun sum a =>
      match registry a.name with
      | none => sum
      | some g => sum.append (.ofRun typeName (g.run a (registry.strip d)))) sum) =
        part sum ++ (attributes.filterMap (registry.generated? d)).flatMap give := by
  induction attributes generalizing sum with
  | nil => simp
  | cons a attributes ih =>
    rw [List.foldl_cons, ih, List.filterMap_cons]
    cases hName : registry a.name with
    | none => simp [generated?, hName]
    | some g =>
      cases hRun : (g.run a (registry.strip d)).outcome with
      | error ds =>
        simp [generated?, hName, hRun, hAppend, hError _ ds hRun, Except.toOption]
      | ok generated =>
        simp [generated?, hName, hRun, hAppend, hOk _ generated hRun, Except.toOption]

theorem ofRun_error (typeName : String) {run : Reporting Generated} {ds : List Diagnostic}
    (h : run.outcome = .error ds) :
    Additions.ofRun typeName run = { Additions.empty with diagnostics := run.diagnostics } := by
  rw [Additions.ofRun, h]

theorem ofRun_ok (typeName : String) {run : Reporting Generated} {g : Generated}
    (h : run.outcome = .ok g) :
    (Additions.ofRun typeName run).members = g.members ∧
      (Additions.ofRun typeName run).peers = g.peers ∧
      (Additions.ofRun typeName run).extensions = g.conformances.map fun c =>
        Construct.conformanceExtension typeName c.type c.whereClause := by
  rw [Additions.ofRun, h]
  exact ⟨rfl, rfl, rfl⟩

theorem members_additions (scope : List String) (d : Decl) :
    (registry.additions scope d).members = (registry.attached scope d).members :=
  registry.part_foldl Additions.members Generated.members _ d (fun _ _ => rfl)
    (fun _ _ h => by rw [ofRun_error _ h]; rfl) (fun _ _ h => (ofRun_ok _ h).1) d.attributes _

theorem peers_additions (scope : List String) (d : Decl) :
    (registry.additions scope d).peers = (registry.attached scope d).peers :=
  registry.part_foldl Additions.peers Generated.peers _ d (fun _ _ => rfl)
    (fun _ _ h => by rw [ofRun_error _ h]; rfl) (fun _ _ h => (ofRun_ok _ h).2.1) d.attributes _

theorem extensions_additions (scope : List String) (d : Decl) :
    (registry.additions scope d).extensions = (registry.attached scope d).extensions :=
  registry.part_foldl Additions.extensions _ _ d (fun _ _ => rfl)
    (fun _ _ h => by rw [ofRun_error _ h]; rfl) (fun _ _ h => (ofRun_ok _ h).2.2) d.attributes _

/-! ## Expansion and its annotated form -/

mutual

/-- The expansion of a declaration is its annotated form laid out. -/
theorem expandDecl_annotate (scope : List String) : (d : Decl) →
    (registry.expandDecl scope d).decls = (registry.annotate scope d).decls ∧
      (registry.expandDecl scope d).extensions = (registry.annotate scope d).extensions
  | .type header members => by
    obtain ⟨hDecls, hExtensions⟩ := expandMembers_annotate (scope ++ [header.name]) members
    rw [annotate, Annotated.decls, Annotated.extensions, ← hDecls, ← hExtensions,
      ← members_additions, ← peers_additions, ← extensions_additions, expandDecl]
    exact ⟨rfl, rfl⟩
  | .function _ | .initializer _ | .variable _ | .enumCase _ | .raw _ _ | .statement _
  | .file _ =>
    ⟨congrArg (List.cons _) (registry.peers_additions scope _),
      registry.extensions_additions scope _⟩

theorem expandMembers_annotate (scope : List String) : (ds : List Decl) →
    (registry.expandMembers scope ds).decls =
        Annotated.declsAll (registry.annotateAll scope ds) ∧
      (registry.expandMembers scope ds).extensions =
        Annotated.extensionsAll (registry.annotateAll scope ds)
  | [] => ⟨rfl, rfl⟩
  | d :: ds => by
    obtain ⟨hDecls, hExtensions⟩ := expandDecl_annotate scope d
    obtain ⟨hRest, hRestExtensions⟩ := expandMembers_annotate scope ds
    rw [annotateAll, Annotated.declsAll, Annotated.extensionsAll, ← hDecls, ← hExtensions,
      ← hRest, ← hRestExtensions]
    exact ⟨rfl, rfl⟩

end

theorem expandFile_annotate (ds : List Decl) :
    (registry.expandFile ds).decls = Annotated.fileDecls (registry.annotateAll [] ds) := by
  induction ds with
  | nil => rfl
  | cons d ds ih =>
    obtain ⟨hDecls, hExtensions⟩ := registry.expandDecl_annotate [] d
    rw [annotateAll, Annotated.fileDecls, List.flatMap_cons, ← hDecls, ← hExtensions]
    exact congrArg _ ih

mutual

theorem kept_annotate (scope : List String) : (d : Decl) →
    (registry.annotate scope d).kept = registry.stripDeep d
  | .type header members => by
    rw [annotate, Annotated.kept, stripDeep, keptAll_annotateAll (scope ++ [header.name]) members]
  | .function _ | .initializer _ | .variable _ | .enumCase _ | .raw _ _ | .statement _
  | .file _ => rfl

theorem keptAll_annotateAll (scope : List String) : (ds : List Decl) →
    Annotated.keptAll (registry.annotateAll scope ds) = registry.stripAll ds
  | [] => rfl
  | d :: ds => by
    rw [annotateAll, Annotated.keptAll, stripAll, kept_annotate scope d,
      keptAll_annotateAll scope ds]

end

/-- An expanded file is laid out from the input and what was generated for it, and without what was
generated it is the input without the attributes of generators. -/
theorem expandFile_keeps_input (ds : List Decl) :
    (registry.expandFile ds).decls = Annotated.fileDecls (registry.annotateAll [] ds) ∧
      Annotated.keptAll (registry.annotateAll [] ds) = registry.stripAll ds :=
  ⟨registry.expandFile_annotate ds, registry.keptAll_annotateAll [] ds⟩

end Registry

end SwiftDerive
