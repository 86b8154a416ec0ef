import SwiftDerive.Proofs.Expansion.Extensions

/-! # Expansion in sequence

A file may be expanded by a walk that carries the waiting extensions, the diagnostics and the count
along, from member to member and from declaration to declaration. The walk only ever adds to what it
carries, and nothing waits between two top-level declarations. So they are expanded apart.
-/

namespace SwiftDerive

set_option autoImplicit false

namespace Expansion

theorem empty_append (e : Expansion) : empty ++ e = e := by
  change append empty e = e
  simp [append, empty]

theorem append_assoc (a b c : Expansion) : a ++ b ++ c = a ++ (b ++ c) := by
  change (a.append b).append c = a.append (b.append c)
  simp [append, Nat.add_assoc]

end Expansion

structure Carried where
  waiting : List Decl
  diagnostics : List Diagnostic
  count : Nat

namespace Carried

def start : Carried := ⟨[], [], 0⟩

def behind (c : Carried) (e : Expansion) : Carried :=
  ⟨c.waiting ++ e.extensions, c.diagnostics ++ e.diagnostics, c.count + e.count⟩

theorem behind_empty (c : Carried) : c.behind .empty = c := by
  simp [behind, Expansion.empty]

theorem behind_append (c : Carried) (a b : Expansion) :
    c.behind (a ++ b) = (c.behind a).behind b := by
  change c.behind (a.append b) = _
  simp [behind, Expansion.append, Nat.add_assoc]

end Carried

structure Gathered where
  members : List Decl
  peers : List Decl
  carried : Carried

namespace Gathered

/-- One attribute more. Its generator reports as it runs; what it gives counts only if it ends. -/
def step (registry : Registry) (typeName : String) (stripped : Decl) (st : Gathered)
    (a : Attribute) : Gathered :=
  match registry a.name with
  | none => st
  | some g =>
    let run := g.run a stripped
    let reported := st.carried.diagnostics ++ run.reported
    match run.outcome with
    | .error problems =>
      { st with carried := { st.carried with diagnostics := reported ++ problems } }
    | .ok given => {
        members := st.members ++ given.members
        peers := st.peers ++ given.peers
        carried := {
          waiting := st.carried.waiting ++ given.conformances.map fun c =>
            Construct.conformanceExtension typeName c.type c.whereClause
          diagnostics := reported
          count :=
            if given.members.isEmpty && given.peers.isEmpty && given.conformances.isEmpty then
              st.carried.count
            else st.carried.count + 1 } }

def behind (st : Gathered) (added : Additions) : Gathered where
  members := st.members ++ added.members
  peers := st.peers ++ added.peers
  carried := ⟨st.carried.waiting ++ added.extensions,
    st.carried.diagnostics ++ added.diagnostics, st.carried.count + added.count⟩

theorem behind_empty (st : Gathered) : st.behind .empty = st := by
  simp [behind, Additions.empty]

theorem behind_append (st : Gathered) (a b : Additions) :
    st.behind (a.append b) = (st.behind a).behind b := by
  simp [behind, Additions.append, Nat.add_assoc]

theorem step_of_run (registry : Registry) (typeName : String) (stripped : Decl) (st : Gathered)
    {a : Attribute} {g : Generator} (hName : registry a.name = some g) :
    step registry typeName stripped st a = st.behind (.ofRun typeName (g.run a stripped)) := by
  simp only [step, hName, behind, Additions.ofRun, Reporting.diagnostics]
  cases (g.run a stripped).outcome with
  | error problems => simp [Additions.empty]
  | ok given =>
    by_cases hNothing :
        (given.members.isEmpty && given.peers.isEmpty && given.conformances.isEmpty) = true
    · simp [hNothing]
    · simp [hNothing]

end Gathered

namespace Registry

def walkAttributes (registry : Registry) (scope : List String) (d : Decl) (inner : List Decl)
    (c : Carried) : List Decl × Carried :=
  let gathered := d.attributes.foldl
    (Gathered.step registry (".".intercalate (scope ++ [d.name])) (registry.strip d)) ⟨[], [], c⟩
  let kept :=
    match registry.strip d with
    | .type header _ => .type header (inner ++ gathered.members)
    | other => other
  (kept :: gathered.peers, gathered.carried)

mutual

def walkDecl (registry : Registry) (scope : List String) (c : Carried) (d : Decl) :
    List Decl × Carried :=
  match d with
  | .type header members =>
    let inner := registry.walkMembers (scope ++ [header.name]) c members
    registry.walkAttributes scope (.type header members) inner.1 inner.2
  | d => registry.walkAttributes scope d [] c

def walkMembers (registry : Registry) (scope : List String) (c : Carried) :
    List Decl → List Decl × Carried
  | [] => ([], c)
  | d :: ds =>
    let first := registry.walkDecl scope c d
    let rest := registry.walkMembers scope first.2 ds
    (first.1 ++ rest.1, rest.2)

end

/-- The walk through a file. What waits is put behind each declaration. -/
def walkFile (registry : Registry) (c : Carried) : List Decl → List Decl × Carried
  | [] => ([], c)
  | d :: ds =>
    let first := registry.walkDecl [] c d
    let rest := registry.walkFile { first.2 with waiting := [] } ds
    (first.1 ++ first.2.waiting ++ rest.1, rest.2)

/-! ## The walk adds to what it carries -/

variable (registry : Registry)

theorem foldl_step_behind (scope : List String) (d : Decl) (st : Gathered)
    (attributes : List Attribute) (added : Additions) :
    attributes.foldl (Gathered.step registry (".".intercalate (scope ++ [d.name]))
      (registry.strip d)) (st.behind added) =
        st.behind (attributes.foldl (registry.addAttribute scope d) added) := by
  induction attributes generalizing added with
  | nil => rfl
  | cons a attributes ih =>
    rw [List.foldl_cons, List.foldl_cons, ← ih, addAttribute]
    cases hName : registry a.name with
    | none => rw [Gathered.step, hName]
    | some g => rw [Gathered.step_of_run registry _ _ _ hName, Gathered.behind_append, addedBy]

theorem walkAttributes_eq (scope : List String) (d : Decl) (c : Carried) (inner : Expansion) :
    registry.walkAttributes scope d inner.decls (c.behind inner) =
      ((registry.attach scope d inner).decls, c.behind (registry.attach scope d inner)) := by
  have hRun : d.attributes.foldl (Gathered.step registry (".".intercalate (scope ++ [d.name]))
      (registry.strip d)) ⟨[], [], c.behind inner⟩ =
        Gathered.behind ⟨[], [], c.behind inner⟩ (registry.additions scope d) := by
    have hFrom := registry.foldl_step_behind scope d ⟨[], [], c.behind inner⟩ d.attributes .empty
    rwa [Gathered.behind_empty] at hFrom
  have hCarried : (Gathered.behind ⟨[], [], c.behind inner⟩ (registry.additions scope d)).carried =
      c.behind (registry.attach scope d inner) := by
    simp [Gathered.behind, Carried.behind, attach, Nat.add_assoc]
  rw [walkAttributes, hRun, hCarried]
  rfl

theorem walkDecl_members (scope : List String) (c : Carried) (d : Decl) :
    registry.walkDecl scope c d =
      registry.walkAttributes scope d (registry.walkMembers (scope ++ [d.name]) c d.members).1
        (registry.walkMembers (scope ++ [d.name]) c d.members).2 := by
  cases d with
  | type header members => rw [walkDecl]; rfl
  | _ => rfl

theorem walkMembers_eq {scope : List String} {ds : List Decl}
    (h : ∀ d ∈ ds, ∀ c, registry.walkDecl scope c d =
      ((registry.expandDecl scope d).decls, c.behind (registry.expandDecl scope d)))
    (c : Carried) : registry.walkMembers scope c ds =
      ((registry.expandMembers scope ds).decls, c.behind (registry.expandMembers scope ds)) := by
  induction ds generalizing c with
  | nil => exact congrArg (Prod.mk []) c.behind_empty.symm
  | cons d ds ih =>
    obtain ⟨hHead, hTail⟩ := List.forall_mem_cons.mp h
    rw [walkMembers, hHead c, ih hTail, expandMembers, Carried.behind_append]
    rfl

theorem walkDecl_eq (scope : List String) (c : Carried) (d : Decl) :
    registry.walkDecl scope c d =
      ((registry.expandDecl scope d).decls, c.behind (registry.expandDecl scope d)) := by
  induction d using Decl.members_induction generalizing scope c with
  | step d ih =>
    have hInner := registry.walkMembers_eq fun m hMem c => ih m hMem (scope ++ [d.name]) c
    rw [walkDecl_members, hInner c, walkAttributes_eq, expandDecl_eq]

theorem extensions_expandFile (ds : List Decl) : (registry.expandFile ds).extensions = [] := by
  induction ds with
  | nil => rfl
  | cons d ds ih => exact ih

/-- With nothing waiting at the start, the walk gives the expansion of the file, and nothing waits at
the end. -/
theorem walkFile_eq (ds : List Decl) {c : Carried} (hNone : c.waiting = []) :
    registry.walkFile c ds =
      ((registry.expandFile ds).decls, c.behind (registry.expandFile ds)) := by
  induction ds generalizing c with
  | nil => exact congrArg (Prod.mk []) c.behind_empty.symm
  | cons d ds ih =>
    have hFlush : { c.behind (registry.expandDecl [] d) with waiting := [] } =
        c.behind (registry.expandDecl [] d).flush := by
      simp [Carried.behind, Expansion.flush, hNone]
    have hWaiting : (c.behind (registry.expandDecl [] d)).waiting =
        (registry.expandDecl [] d).extensions := by
      rw [Carried.behind, hNone, List.nil_append]
    rw [walkFile, walkDecl_eq, hFlush, ih (by rw [← hFlush]), expandFile, Carried.behind_append,
      hWaiting]
    rfl

theorem expandFile_append_eq (xs ys : List Decl) :
    registry.expandFile (xs ++ ys) = registry.expandFile xs ++ registry.expandFile ys := by
  induction xs with
  | nil => exact (Expansion.empty_append _).symm
  | cons d xs ih =>
    rw [List.cons_append, expandFile, ih, expandFile, Expansion.append_assoc]

/-- Two files one behind the other are expanded apart, as declarations, diagnostics and count; and the
walk through any file gives its expansion. -/
theorem expandFile_append (xs ys : List Decl) :
    (registry.expandFile (xs ++ ys)).decls =
        (registry.expandFile xs).decls ++ (registry.expandFile ys).decls ∧
      (registry.expandFile (xs ++ ys)).diagnostics =
        (registry.expandFile xs).diagnostics ++ (registry.expandFile ys).diagnostics ∧
      (registry.expandFile (xs ++ ys)).count =
        (registry.expandFile xs).count + (registry.expandFile ys).count ∧
      ∀ ds, registry.walkFile .start ds =
        ((registry.expandFile ds).decls,
          ⟨[], (registry.expandFile ds).diagnostics, (registry.expandFile ds).count⟩) := by
  rw [expandFile_append_eq]
  refine ⟨rfl, rfl, rfl, ?_⟩
  intro ds
  rw [registry.walkFile_eq ds rfl]
  simp [Carried.behind, Carried.start, extensions_expandFile]

end Registry

end SwiftDerive
