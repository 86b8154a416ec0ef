import SwiftDerive.Proofs.Expansion.Extensions

/-! # Aborted attributes

An attribute whose generator aborts adds diagnostics and nothing else. The run is compared with one in
which a generator that gives nothing answers this one attribute, in the same registry.
-/

namespace SwiftDerive

set_option autoImplicit false

namespace Generator

def nothing : Generator where
  members _ _ := .result []
  peers _ _ := .result []
  conformances _ _ := .result []

/-- A generator aborts in one of its parts, after it has reported something in this and the earlier
ones. -/
inductive Aborts (g : Generator) (a : Attribute) (d : Decl) :
    (reported errors : List Diagnostic) → Prop where
  | members {reported errors : List Diagnostic} (hMembers : g.members a d = ⟨reported, .error errors⟩) :
    Aborts g a d reported errors
  | peers {r₁ r₂ errors : List Diagnostic} {ms : List Decl}
    (hMembers : g.members a d = ⟨r₁, .ok ms⟩) (hPeers : g.peers a d = ⟨r₂, .error errors⟩) :
    Aborts g a d (r₁ ++ r₂) errors
  | conformances {r₁ r₂ r₃ errors : List Diagnostic} {ms ps : List Decl}
    (hMembers : g.members a d = ⟨r₁, .ok ms⟩) (hPeers : g.peers a d = ⟨r₂, .ok ps⟩)
    (hConformances : g.conformances a d = ⟨r₃, .error errors⟩) :
    Aborts g a d (r₁ ++ (r₂ ++ r₃)) errors

theorem Aborts.run_eq {g : Generator} {a : Attribute} {d : Decl}
    {reported errors : List Diagnostic} (h : g.Aborts a d reported errors) :
    g.run a d = ⟨reported, .error errors⟩ := by
  cases h with
  | members hMembers => simp [run, bind, Reporting.andThen, hMembers]
  | peers hMembers hPeers => simp [run, bind, Reporting.andThen, hMembers, hPeers]
  | conformances hMembers hPeers hConformances =>
    simp [run, bind, Reporting.andThen, hMembers, hPeers, hConformances]

end Generator

/-- Generators that answer single attributes instead of those of the registry, by the path of the
declaration and the number of the attribute. -/
abbrev Answers := List Nat → Nat → Option Generator

namespace Answers

def registered : Answers := fun _ _ => none

def silencing (s : Site) : Answers := fun path number =>
  if path = s.path ∧ number = s.number then some .nothing else none

def below (answers : Answers) (i : Nat) : Answers := fun path => answers (i :: path)

end Answers

def Additions.silent (a : Additions) : Additions := { a with diagnostics := [] }

def Expansion.silent (e : Expansion) : Expansion := { e with diagnostics := [] }

theorem Additions.silent_sum (as : List Additions) : (sum as).silent = sum (as.map silent) := by
  induction as with
  | nil => rfl
  | cons a as ih =>
    calc
      (sum (a :: as)).silent = a.silent.append (sum as).silent := rfl
      _ = a.silent.append (sum (as.map silent)) := by rw [ih]
      _ = sum ((a :: as).map silent) := rfl

namespace Registry

variable (registry : Registry)

/-! ## Expansion with other answers -/

def runBy (answers : Answers) (s : Site) : Reporting Generated :=
  ((answers s.path s.number).getD s.generator).run s.trigger (registry.strip s.decl)

def additionsBy (answers : Answers) (scope : List String) (d : Decl) : Additions :=
  .sum ((registry.sitesAt d).map fun s => addedBy scope d (registry.runBy answers s))

def joined (d : Decl) (added : Additions) (inner : Expansion) : Expansion :=
  let kept :=
    match registry.strip d with
    | .type header _ => .type header (inner.decls ++ added.members)
    | other => other
  ⟨kept :: added.peers, inner.extensions ++ added.extensions,
    inner.diagnostics ++ added.diagnostics, inner.count + added.count⟩

mutual

def expandDeclBy (answers : Answers) (scope : List String) (d : Decl) : Expansion :=
  match d with
  | .type header members =>
    registry.joined (.type header members) (registry.additionsBy answers scope (.type header members))
      (expandMembersBy answers 0 (scope ++ [header.name]) members)
  | d => registry.joined d (registry.additionsBy answers scope d) Expansion.empty

def expandMembersBy (answers : Answers) (i : Nat) (scope : List String) : List Decl → Expansion
  | [] => Expansion.empty
  | d :: ds =>
    expandDeclBy (answers.below i) scope d ++ expandMembersBy answers (i + 1) scope ds

end

def expandFileBy (answers : Answers) (i : Nat) : List Decl → Expansion
  | [] => Expansion.empty
  | d :: ds =>
    (registry.expandDeclBy (answers.below i) [] d).flush ++ expandFileBy answers (i + 1) ds

theorem expandDeclBy_eq (answers : Answers) (scope : List String) (d : Decl) :
    registry.expandDeclBy answers scope d =
      registry.joined d (registry.additionsBy answers scope d)
        (registry.expandMembersBy answers 0 (scope ++ [d.name]) d.members) := by
  cases d with
  | type header members => rw [expandDeclBy]; rfl
  | _ => rfl

theorem expandMembersBy_registered {scope : List String} {ds : List Decl}
    (h : ∀ d ∈ ds, registry.expandDeclBy .registered scope d = registry.expandDecl scope d)
    (i : Nat) : registry.expandMembersBy .registered i scope ds =
      registry.expandMembers scope ds := by
  induction ds generalizing i with
  | nil => rfl
  | cons d ds ih =>
    obtain ⟨hHead, hTail⟩ := List.forall_mem_cons.mp h
    rw [expandMembersBy, expandMembers, ih hTail (i + 1), ← hHead]
    rfl

theorem expandDeclBy_registered (scope : List String) (d : Decl) :
    registry.expandDeclBy .registered scope d = registry.expandDecl scope d := by
  induction d using Decl.members_induction generalizing scope with
  | step d ih =>
    rw [expandDeclBy_eq, expandDecl_eq,
      registry.expandMembersBy_registered fun m hMem => ih m hMem (scope ++ [d.name])]
    exact congrArg (registry.joined d · _) (registry.additions_eq_sum scope d).symm

theorem expandFileBy_registered (i : Nat) (ds : List Decl) :
    registry.expandFileBy .registered i ds = registry.expandFile ds := by
  induction ds generalizing i with
  | nil => rfl
  | cons d ds ih =>
    rw [expandFileBy, expandFile, ih, ← expandDeclBy_registered]
    rfl

/-! ## Diagnostics -/

theorem diagnostics_additionsBy (answers : Answers) (scope : List String) (d : Decl) :
    (registry.additionsBy answers scope d).diagnostics =
      (registry.sitesAt d).flatMap fun s => (registry.runBy answers s).diagnostics := by
  rw [additionsBy, Additions.part_sum Additions.diagnostics rfl (fun _ _ => rfl), List.flatMap_map]
  refine List.flatMap_congr fun s _ => ?_
  rw [addedBy, Additions.ofRun_eq_yield]

theorem diagnostics_expandMembersBy {ds : List Decl}
    (h : ∀ d ∈ ds, ∀ answers scope, (registry.expandDeclBy answers scope d).diagnostics =
      (registry.sites d).flatMap fun s => (registry.runBy answers s).diagnostics)
    (answers : Answers) (i : Nat) (scope : List String) :
    (registry.expandMembersBy answers i scope ds).diagnostics =
      (registry.sitesFrom i ds).flatMap fun s => (registry.runBy answers s).diagnostics := by
  induction ds generalizing i with
  | nil => rfl
  | cons d ds ih =>
    obtain ⟨hHead, hTail⟩ := List.forall_mem_cons.mp h
    rw [sitesFrom, List.flatMap_append, List.flatMap_map, ← ih hTail (i + 1)]
    exact congrArg (· ++ _) (hHead (answers.below i) scope)

theorem diagnostics_expandDeclBy (answers : Answers) (scope : List String) (d : Decl) :
    (registry.expandDeclBy answers scope d).diagnostics =
      (registry.sites d).flatMap fun s => (registry.runBy answers s).diagnostics := by
  induction d using Decl.members_induction generalizing answers scope with
  | step d ih =>
    have hInner := registry.diagnostics_expandMembersBy ih answers 0 (scope ++ [d.name])
    rw [expandDeclBy_eq, sites_eq, List.flatMap_append, List.flatMap_map,
      ← diagnostics_additionsBy registry answers scope]
    exact congrArg (· ++ _) hInner

theorem diagnostics_expandFileBy (answers : Answers) (i : Nat) (ds : List Decl) :
    (registry.expandFileBy answers i ds).diagnostics =
      (registry.sitesFrom i ds).flatMap fun s => (registry.runBy answers s).diagnostics := by
  induction ds generalizing i with
  | nil => rfl
  | cons d ds ih =>
    rw [sitesFrom, List.flatMap_append, List.flatMap_map, ← ih (i + 1)]
    exact congrArg (· ++ _) (registry.diagnostics_expandDeclBy (answers.below i) [] d)

theorem diagnostics_expandFile (ds : List Decl) : (registry.expandFile ds).diagnostics =
    (registry.sitesFrom 0 ds).flatMap fun s => (registry.runAt s).diagnostics := by
  rw [← registry.expandFileBy_registered 0 ds, diagnostics_expandFileBy]
  rfl

/-! ## All but the diagnostics -/

theorem silent_additionsBy {answers others : Answers} {d : Decl}
    (h : ∀ s ∈ registry.sitesAt d,
      (registry.runBy answers s).yield = (registry.runBy others s).yield) (scope : List String) :
    (registry.additionsBy answers scope d).silent = (registry.additionsBy others scope d).silent := by
  rw [additionsBy, additionsBy, Additions.silent_sum, Additions.silent_sum, List.map_map,
    List.map_map]
  refine congrArg Additions.sum (List.map_congr_left fun s hMem => ?_)
  simp only [Function.comp_apply, addedBy, Additions.ofRun_eq_yield, h s hMem, Additions.silent]

theorem silent_joined {d : Decl} {added other : Additions} {inner inner' : Expansion}
    (hAdded : added.silent = other.silent) (hInner : inner.silent = inner'.silent) :
    (registry.joined d added inner).silent = (registry.joined d other inner').silent := by
  calc
    (registry.joined d added inner).silent = registry.joined d added.silent inner.silent := rfl
    _ = registry.joined d other.silent inner'.silent := by rw [hAdded, hInner]
    _ = (registry.joined d other inner').silent := rfl

theorem silent_expandMembersBy {ds : List Decl}
    (h : ∀ d ∈ ds, ∀ answers others : Answers, (∀ s ∈ registry.sites d,
      (registry.runBy answers s).yield = (registry.runBy others s).yield) → ∀ scope,
      (registry.expandDeclBy answers scope d).silent =
        (registry.expandDeclBy others scope d).silent)
    {answers others : Answers} {i : Nat} (hSites : ∀ s ∈ registry.sitesFrom i ds,
      (registry.runBy answers s).yield = (registry.runBy others s).yield) (scope : List String) :
    (registry.expandMembersBy answers i scope ds).silent =
      (registry.expandMembersBy others i scope ds).silent := by
  induction ds generalizing i with
  | nil => rfl
  | cons d ds ih =>
    obtain ⟨hHead, hTail⟩ := List.forall_mem_cons.mp h
    rw [sitesFrom] at hSites
    have hFirst := hHead (answers.below i) (others.below i)
      (fun s hMem => hSites _ (List.mem_append_left _ (List.mem_map_of_mem hMem))) scope
    have hRest := ih hTail (i := i + 1) fun s hMem => hSites s (List.mem_append_right _ hMem)
    calc
      (registry.expandMembersBy answers i scope (d :: ds)).silent =
          (registry.expandDeclBy (answers.below i) scope d).silent ++
            (registry.expandMembersBy answers (i + 1) scope ds).silent := rfl
      _ = (registry.expandDeclBy (others.below i) scope d).silent ++
            (registry.expandMembersBy others (i + 1) scope ds).silent := by rw [hFirst, hRest]
      _ = (registry.expandMembersBy others i scope (d :: ds)).silent := rfl

/-- Answers that give the same at every site lead to the same declarations. -/
theorem silent_expandDeclBy {answers others : Answers} {d : Decl}
    (h : ∀ s ∈ registry.sites d,
      (registry.runBy answers s).yield = (registry.runBy others s).yield) (scope : List String) :
    (registry.expandDeclBy answers scope d).silent =
      (registry.expandDeclBy others scope d).silent := by
  induction d using Decl.members_induction generalizing answers others scope with
  | step d ih =>
    rw [sites_eq] at h
    rw [expandDeclBy_eq, expandDeclBy_eq]
    apply silent_joined
    · exact registry.silent_additionsBy (fun s hMem => h s (List.mem_append_right _ hMem)) scope
    · exact registry.silent_expandMembersBy
        (fun m hMem answers others hInner scope => ih m hMem hInner scope)
        (fun s hMem => h (s.inside d.name)
          (List.mem_append_left _ (List.mem_map_of_mem hMem))) _

theorem silent_expandFileBy {answers others : Answers} {i : Nat} {ds : List Decl}
    (h : ∀ s ∈ registry.sitesFrom i ds,
      (registry.runBy answers s).yield = (registry.runBy others s).yield) :
    (registry.expandFileBy answers i ds).silent = (registry.expandFileBy others i ds).silent := by
  induction ds generalizing i with
  | nil => rfl
  | cons d ds ih =>
    rw [sitesFrom] at h
    have hFirst : (registry.expandDeclBy (answers.below i) [] d).silent =
        (registry.expandDeclBy (others.below i) [] d).silent :=
      registry.silent_expandDeclBy
        (fun s hMem => h (s.below i) (List.mem_append_left _ (List.mem_map_of_mem hMem))) []
    have hRest := ih (i := i + 1) fun s hMem => h s (List.mem_append_right _ hMem)
    calc
      (registry.expandFileBy answers i (d :: ds)).silent =
          (registry.expandDeclBy (answers.below i) [] d).silent.flush ++
            (registry.expandFileBy answers (i + 1) ds).silent := rfl
      _ = (registry.expandDeclBy (others.below i) [] d).silent.flush ++
            (registry.expandFileBy others (i + 1) ds).silent := by rw [hFirst, hRest]
      _ = (registry.expandFileBy others i (d :: ds)).silent := rfl

/-! ## An aborted attribute -/

theorem runBy_silencing_of_ne {s t : Site} (h : ¬ (t.path = s.path ∧ t.number = s.number)) :
    registry.runBy (.silencing s) t = registry.runAt t := by
  rw [runBy, Answers.silencing, if_neg h]
  rfl

theorem runBy_silencing_self (s : Site) :
    registry.runBy (.silencing s) s = .result ⟨[], [], []⟩ := by
  rw [runBy, Answers.silencing, if_pos ⟨rfl, rfl⟩]
  rfl

theorem runBy_silencing_of_split {i : Nat} {ds : List Decl} {s : Site} {before after : List Site}
    (hSplit : registry.sitesFrom i ds = before ++ s :: after) {t : Site}
    (hMem : t ∈ before ++ after) : registry.runBy (.silencing s) t = registry.runAt t := by
  obtain ⟨hBefore, hAfter⟩ := registry.before_of_split hSplit
  apply runBy_silencing_of_ne
  rcases List.mem_append.mp hMem with hLeft | hRight
  · exact (hBefore t hLeft).ne
  · rintro ⟨hPath, hNumber⟩
    exact (hAfter t hRight).ne ⟨hPath.symm, hNumber.symm⟩

theorem silent_expandFile_silencing {ds : List Decl} {s : Site} {before after : List Site}
    (hSplit : registry.sitesFrom 0 ds = before ++ s :: after)
    (hNothing : (registry.runAt s).yield = ⟨[], [], []⟩) :
    (registry.expandFile ds).silent = (registry.expandFileBy (.silencing s) 0 ds).silent := by
  rw [← registry.expandFileBy_registered 0 ds]
  apply silent_expandFileBy
  intro t hMem
  rw [hSplit, List.mem_append, List.mem_cons, or_left_comm, ← List.mem_append] at hMem
  rcases hMem with rfl | hOther
  · rw [runBy_silencing_self]
    exact hNothing
  · rw [registry.runBy_silencing_of_split hSplit hOther]
    rfl

theorem diagnostics_expandFileBy_silencing {ds : List Decl} {s : Site} {before after : List Site}
    (hSplit : registry.sitesFrom 0 ds = before ++ s :: after) :
    (registry.expandFileBy (.silencing s) 0 ds).diagnostics =
      before.flatMap (fun t => (registry.runAt t).diagnostics) ++
        after.flatMap (fun t => (registry.runAt t).diagnostics) := by
  have hSame : ∀ t ∈ before ++ after, (registry.runBy (.silencing s) t).diagnostics =
      (registry.runAt t).diagnostics := by
    intro t hMem
    rw [registry.runBy_silencing_of_split hSplit hMem]
  have hBefore := List.flatMap_congr fun t hMem => hSame t (List.mem_append_left after hMem)
  have hAfter := List.flatMap_congr fun t hMem => hSame t (List.mem_append_right before hMem)
  rw [diagnostics_expandFileBy, hSplit, List.flatMap_append, List.flatMap_cons, hBefore, hAfter,
    runBy_silencing_self]
  rfl

/-- An attribute whose generator aborts leaves nothing but its diagnostics. The file and the count
are those of the run in which it gives nothing, and the diagnostics too, but for what it reported
and then aborted with, in the place of the attribute. -/
theorem expandFile_abort {ds : List Decl} {s : Site} (hSite : s ∈ registry.sitesFrom 0 ds)
    {reported errors : List Diagnostic}
    (hAborts : s.generator.Aborts s.trigger (registry.strip s.decl) reported errors) :
    (registry.expandFile ds).decls = (registry.expandFileBy (.silencing s) 0 ds).decls ∧
      (registry.expandFile ds).count = (registry.expandFileBy (.silencing s) 0 ds).count ∧
      ∃ before after, registry.sitesFrom 0 ds = before ++ s :: after ∧
        (∀ t ∈ before, t.Before s) ∧ (∀ t ∈ after, s.Before t) ∧
        (registry.expandFileBy (.silencing s) 0 ds).diagnostics =
          before.flatMap (fun t => (registry.runAt t).diagnostics) ++
            after.flatMap (fun t => (registry.runAt t).diagnostics) ∧
        (registry.expandFile ds).diagnostics =
          before.flatMap (fun t => (registry.runAt t).diagnostics) ++ (reported ++ errors) ++
            after.flatMap (fun t => (registry.runAt t).diagnostics) := by
  have hRun : registry.runAt s = ⟨reported, .error errors⟩ := hAborts.run_eq
  obtain ⟨before, after, hSplit⟩ := List.append_of_mem hSite
  have hSilent := registry.silent_expandFile_silencing hSplit (by rw [hRun]; rfl)
  have hDecls : (registry.expandFile ds).silent.decls =
      (registry.expandFileBy (.silencing s) 0 ds).silent.decls := by rw [hSilent]
  have hCount : (registry.expandFile ds).silent.count =
      (registry.expandFileBy (.silencing s) 0 ds).silent.count := by rw [hSilent]
  obtain ⟨hBefore, hAfter⟩ := registry.before_of_split hSplit
  refine ⟨hDecls, hCount, before, after, hSplit, hBefore, hAfter,
    registry.diagnostics_expandFileBy_silencing hSplit, ?_⟩
  rw [diagnostics_expandFile, hSplit, List.flatMap_append, List.flatMap_cons, hRun,
    List.append_assoc]
  rfl

/-! ### A nested type with an aborted attribute before another one -/

def pairing : Generator where
  members _ _ := .result []
  peers _ d := .result [.raw ("typealias Pair = " ++ d.name) none]
  conformances _ _ := .result [⟨.named "Paired" [], none⟩]

def warned : Diagnostic := ⟨⟨"suspicious", "checks", "suspicious", .warning⟩, none⟩

def refused : Diagnostic := ⟨⟨"refused", "checks", "refused", .error⟩, none⟩

def refusing : Generator where
  members _ _ := ⟨[warned], .ok [.raw "case refused" none]⟩
  peers _ _ := .abort [refused]
  conformances _ _ := .result []

def checks : Registry
  | "Paired" => some pairing
  | "Checked" => some refusing
  | _ => none

/-- `@Checked @Paired struct Inner {}` -/
def checkedInner : Decl :=
  .type ⟨.structType, "Inner", [], [], none, [⟨"Checked", none, none⟩, ⟨"Paired", none, none⟩], [],
    none⟩ []

def checkedOuter : Decl :=
  .type ⟨.structType, "Outer", [], [], none, [⟨"Paired", none, none⟩], [], none⟩ [checkedInner]

def checkedSite : Site where
  path := [0, 0]
  scope := ["Outer"]
  decl := checkedInner
  number := 0
  trigger := ⟨"Checked", none, none⟩
  generator := refusing

theorem expandFile_abort_checked :
    checkedSite ∈ checks.sitesFrom 0 [checkedOuter] ∧
      refusing.Aborts checkedSite.trigger (checks.strip checkedInner) [warned] [refused] ∧
      (checks.expandFile [checkedOuter]).diagnostics = [warned, refused] ∧
      (checks.expandFile [checkedOuter]).decls =
        (checks.expandFileBy (.silencing checkedSite) 0 [checkedOuter]).decls := by
  have hSite : checkedSite ∈ checks.sitesFrom 0 [checkedOuter] := List.mem_cons_self
  have hAborts : refusing.Aborts checkedSite.trigger (checks.strip checkedInner)
      ([warned] ++ []) [refused] := .peers rfl rfl
  exact ⟨hSite, hAborts, rfl, (checks.expandFile_abort hSite hAborts).1⟩

end Registry

end SwiftDerive
