import SwiftDerive.Proofs.Expansion.Annotated
import SwiftDerive.Proofs.Expansion.Sites

/-! # Where extensions stand

Each conformance that an attribute gives becomes one extension. The extensions of a top-level
declaration stand behind it and its peers, in the order of the attributes that gave them.
-/

namespace SwiftDerive

set_option autoImplicit false

/-- What a run of a generator gives; an aborted one gives nothing. -/
def Reporting.yield (run : Reporting Generated) : Generated :=
  match run.outcome with
  | .error _ => ⟨[], [], []⟩
  | .ok given => given

namespace Additions

theorem ofRun_eq_yield (typeName : String) (run : Reporting Generated) :
    ofRun typeName run = {
      members := run.yield.members
      peers := run.yield.peers
      extensions := run.yield.conformances.map fun c =>
        Construct.conformanceExtension typeName c.type c.whereClause
      diagnostics := run.diagnostics
      count := if run.yield.members.isEmpty && run.yield.peers.isEmpty &&
        run.yield.conformances.isEmpty then 0 else 1 } := by
  rw [ofRun, Reporting.yield]
  cases run.outcome with
  | error _ => rfl
  | ok _ => rfl

def sum (as : List Additions) : Additions := as.foldr append empty

theorem append_empty (a : Additions) : a.append empty = a := by
  simp [append, empty]

theorem empty_append (a : Additions) : empty.append a = a := by
  simp [append, empty]

theorem append_assoc (a b c : Additions) : (a.append b).append c = a.append (b.append c) := by
  simp [append, Nat.add_assoc]

theorem part_sum {α : Type} (part : Additions → List α) (hEmpty : part empty = [])
    (hAppend : ∀ a b : Additions, part (a.append b) = part a ++ part b) (as : List Additions) :
    part (sum as) = as.flatMap part := by
  induction as with
  | nil => exact hEmpty
  | cons a as ih => rw [List.flatMap_cons, ← ih, ← hAppend, sum, List.foldr_cons, sum]

end Additions

namespace Registry

variable (registry : Registry)

def runAt (s : Site) : Reporting Generated :=
  s.generator.run s.trigger (registry.strip s.decl)

def addedBy (scope : List String) (d : Decl) (run : Reporting Generated) : Additions :=
  .ofRun (".".intercalate (scope ++ [d.name])) run

def addAttribute (scope : List String) (d : Decl) (sum : Additions) (a : Attribute) : Additions :=
  match registry a.name with
  | none => sum
  | some g => sum.append (addedBy scope d (g.run a (registry.strip d)))

/-- The additions of a declaration are those of its sites. -/
theorem additions_eq_sum (scope : List String) (d : Decl) : registry.additions scope d =
    .sum ((registry.sitesAt d).map fun s => addedBy scope d (registry.runAt s)) := by
  -- Folding may start anywhere: the attributes from the number `i` on add to what is there already.
  have hFrom : ∀ (attributes : List Attribute) (i : Nat) (added : Additions),
      attributes.foldl (registry.addAttribute scope d) added =
      added.append (.sum (((attributes.zipIdx i).filterMap fun p =>
        (registry p.1.name).map fun g => (⟨[], [], d, p.2, p.1, g⟩ : Site)).map fun s =>
          addedBy scope d (registry.runAt s))) := by
    intro attributes
    induction attributes with
    | nil => exact fun _ added => added.append_empty.symm
    | cons a attributes ih =>
      intro i added
      rw [List.foldl_cons, ih (i + 1), List.zipIdx_cons, addAttribute]
      cases hName : registry a.name with
      | none => rw [List.filterMap_cons_none (by simp [hName])]
      | some g =>
        rw [List.filterMap_cons_some (b := ⟨[], [], d, i, a, g⟩) (by simp [hName])]
        exact Additions.append_assoc ..
  exact (hFrom d.attributes 0 Additions.empty).trans (Additions.empty_append _)

theorem expandDecl_eq (scope : List String) (d : Decl) : registry.expandDecl scope d =
    registry.attach scope d (registry.expandMembers (scope ++ [d.name]) d.members) := by
  cases d with
  | type header members => rw [expandDecl]; rfl
  | _ => rfl

/-! ## Extensions -/

/-- The extensions for the conformances that a site gives. They name the annotated declaration by
the names of all types around it and its own. -/
def extensionsAt (scope : List String) (s : Site) : List Decl :=
  (registry.runAt s).yield.conformances.map fun c =>
    Construct.conformanceExtension (".".intercalate (scope ++ s.scope ++ [s.decl.name])) c.type
      c.whereClause

theorem extensions_additions_sites (scope : List String) (d : Decl) :
    (registry.additions scope d).extensions =
      (registry.sitesAt d).flatMap (registry.extensionsAt scope) := by
  rw [additions_eq_sum, Additions.part_sum Additions.extensions rfl (fun _ _ => rfl),
    List.flatMap_map]
  refine List.flatMap_congr fun s hMem => ?_
  obtain ⟨⟨_, hScope, hDecl⟩, _⟩ := (registry.mem_sitesAt_iff d s).mp hMem
  rw [extensionsAt, hScope, hDecl, List.append_nil, addedBy, Additions.ofRun_eq_yield]

theorem extensionsAt_inside (scope : List String) (name : String) (s : Site) :
    registry.extensionsAt scope (s.inside name) = registry.extensionsAt (scope ++ [name]) s := by
  simp only [extensionsAt, Site.inside, List.append_assoc, List.singleton_append]
  rfl

theorem extensions_expandMembers {scope : List String} {ds : List Decl}
    (h : ∀ d ∈ ds, (registry.expandDecl scope d).extensions =
      (registry.sites d).flatMap (registry.extensionsAt scope)) (i : Nat) :
    (registry.expandMembers scope ds).extensions =
      (registry.sitesFrom i ds).flatMap (registry.extensionsAt scope) := by
  induction ds generalizing i with
  | nil => rfl
  | cons d ds ih =>
    obtain ⟨hHead, hTail⟩ := List.forall_mem_cons.mp h
    rw [sitesFrom, List.flatMap_append, List.flatMap_map, ← ih hTail (i + 1)]
    exact congrArg (· ++ _) hHead

theorem extensions_expandDecl (scope : List String) (d : Decl) :
    (registry.expandDecl scope d).extensions =
      (registry.sites d).flatMap (registry.extensionsAt scope) := by
  induction d using Decl.members_induction generalizing scope with
  | step d ih =>
    have hInner := registry.extensions_expandMembers (fun m hMem => ih m hMem (scope ++ [d.name])) 0
    rw [expandDecl_eq, sites_eq, List.flatMap_append, List.flatMap_map,
      ← extensions_additions_sites]
    simp only [extensionsAt_inside, ← hInner]
    rfl

theorem decls_expandFile (ds : List Decl) : (registry.expandFile ds).decls =
    ds.flatMap fun d => (registry.expandDecl [] d).decls ++ (registry.expandDecl [] d).extensions := by
  induction ds with
  | nil => rfl
  | cons d ds ih =>
    rw [List.flatMap_cons, ← ih]
    rfl

end Registry

end SwiftDerive
