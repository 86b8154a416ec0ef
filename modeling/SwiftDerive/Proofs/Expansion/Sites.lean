import Mathlib.Data.List.Basic
import SwiftDerive.Proofs.Lists
import SwiftDerive.Proofs.Nesting

/-! # The attributes that are expanded

Expansion comes to the attributes of generators in the order in which their declarations end. What it
adds, and what it reports, are the contributions of the single attributes in this order.
-/

namespace SwiftDerive

set_option autoImplicit false

/-- An attribute of a generator: the declaration that has it, the way to this declaration, and the
number of the attribute there. -/
structure Site where
  path : List Nat
  scope : List String
  decl : Decl
  number : Nat
  trigger : Attribute
  generator : Generator

namespace Site

/-- The site as seen from the list that has its declaration, or one around it, at this index. -/
def below (i : Nat) (s : Site) : Site := { s with path := i :: s.path }

def inside (name : String) (s : Site) : Site := { s with scope := name :: s.scope }

end Site

inductive EndsBefore : List Nat → List Nat → Prop where
  /-- Each declaration ends before the one that it stands in. -/
  | nested (i : Nat) (path : List Nat) : EndsBefore (i :: path) []
  /-- Of siblings the earlier one ends first, and so all inside it. -/
  | earlier {i j : Nat} (h : i < j) (path other : List Nat) : EndsBefore (i :: path) (j :: other)
  | within (i : Nat) {path other : List Nat} (h : EndsBefore path other) :
    EndsBefore (i :: path) (i :: other)

theorem EndsBefore.irrefl {path : List Nat} : ¬ EndsBefore path path := by
  induction path with
  | nil => exact nofun
  | cons i path ih =>
    intro h
    cases h with
    | earlier hLess => exact Nat.lt_irrefl i hLess
    | within _ hInner => exact ih hInner

/-- The order of expansion: by the ends of declarations, and at one declaration by the numbers of
attributes. -/
def Site.Before (s t : Site) : Prop :=
  EndsBefore s.path t.path ∨ s.path = t.path ∧ s.number < t.number

theorem Site.Before.below {s t : Site} (h : s.Before t) (i : Nat) :
    (s.below i).Before (t.below i) := by
  rcases h with hEnds | ⟨hPath, hNumber⟩
  · exact .inl (.within i hEnds)
  · exact .inr ⟨congrArg (i :: ·) hPath, hNumber⟩

theorem Site.Before.ne {s t : Site} (h : s.Before t) :
    ¬ (s.path = t.path ∧ s.number = t.number) := by
  rintro ⟨hPath, hNumber⟩
  rcases h with hEnds | ⟨_, hLess⟩
  · exact EndsBefore.irrefl (hPath ▸ hEnds)
  · exact Nat.ne_of_lt hLess hNumber

namespace Registry

variable (registry : Registry)

def sitesAt (d : Decl) : List Site :=
  d.attributes.zipIdx.filterMap fun (a, number) =>
    (registry a.name).map fun g => ⟨[], [], d, number, a, g⟩

mutual

/-- The sites at a declaration and at all inside it, those of members first. -/
def sites (d : Decl) : List Site :=
  match d with
  | .type header members =>
    (sitesFrom 0 members).map (Site.inside header.name) ++
      registry.sitesAt (.type header members)
  | d => registry.sitesAt d

def sitesFrom (i : Nat) : List Decl → List Site
  | [] => []
  | d :: ds => (sites d).map (Site.below i) ++ sitesFrom (i + 1) ds

end

theorem sites_eq (d : Decl) : registry.sites d =
    (registry.sitesFrom 0 d.members).map (Site.inside d.name) ++ registry.sitesAt d := by
  cases d with
  | type header members =>
    rw [sites]
    rfl
  | _ => rfl

theorem sitesFrom_eq_flatMap (i : Nat) (ds : List Decl) : registry.sitesFrom i ds =
    (ds.zipIdx i).flatMap fun (d, index) => (registry.sites d).map (Site.below index) := by
  induction ds generalizing i with
  | nil => rfl
  | cons d ds ih => rw [sitesFrom, ih, List.zipIdx_cons, List.flatMap_cons]

/-! ## Which sites there are -/

structure IsSite (d : Decl) (s : Site) : Prop where
  held : d.Holds s.path s.scope s.decl
  attached : s.decl.attributes[s.number]? = some s.trigger
  registered : registry s.trigger.name = some s.generator

theorem mem_sitesAt_iff (d : Decl) (s : Site) : s ∈ registry.sitesAt d ↔
    (s.path = [] ∧ s.scope = [] ∧ s.decl = d) ∧ s.decl.attributes[s.number]? = some s.trigger ∧
      registry s.trigger.name = some s.generator := by
  obtain ⟨path, scope, decl, number, a, g⟩ := s
  simp only [sitesAt, List.mem_filterMap, Option.map_eq_some_iff]
  constructor
  · rintro ⟨⟨a', number'⟩, hMem, g', hName, hSame⟩
    cases hSame
    exact ⟨⟨rfl, rfl, rfl⟩, List.mem_zipIdx_iff_getElem?.mp hMem, hName⟩
  · rintro ⟨⟨rfl, rfl, rfl⟩, hAttached, hName⟩
    exact ⟨(a, number), List.mem_zipIdx_iff_getElem?.mpr hAttached, g, hName, rfl⟩

theorem mem_sitesFrom_iff (i : Nat) (ds : List Decl) (s : Site) : s ∈ registry.sitesFrom i ds ↔
    ∃ d index, (d, index) ∈ ds.zipIdx i ∧ ∃ t ∈ registry.sites d, t.below index = s := by
  simp only [sitesFrom_eq_flatMap, List.mem_flatMap, List.mem_map, Prod.exists]

theorem mem_sites_iff (d : Decl) (s : Site) : s ∈ registry.sites d ↔ registry.IsSite d s := by
  induction d using Decl.members_induction generalizing s with
  | step d ih =>
    rw [sites_eq, List.mem_append, mem_sitesAt_iff]
    constructor
    · rintro (hInner | ⟨⟨hPath, hScope, rfl⟩, hAttached, hName⟩)
      · obtain ⟨t, hMem, rfl⟩ := List.mem_map.mp hInner
        obtain ⟨m, i, hIndex, u, hSite, rfl⟩ := (mem_sitesFrom_iff registry 0 d.members t).mp hMem
        have hMember := List.mem_zipIdx_iff_getElem?.mp hIndex
        obtain ⟨hHeld, hAttached, hName⟩ :=
          (ih m (List.mem_of_getElem? hMember) u).mp hSite
        exact ⟨.member hMember hHeld, hAttached, hName⟩
      · refine ⟨?_, hAttached, hName⟩
        rw [hPath, hScope]
        exact .itself s.decl
    · rintro ⟨hHeld, hAttached, hName⟩
      obtain ⟨path, scope, decl, number, a, g⟩ := s
      cases hHeld with
      | itself => exact .inr ⟨⟨rfl, rfl, rfl⟩, hAttached, hName⟩
      | @member _ m _ i path scope hMember hInner =>
        refine .inl (List.mem_map.mpr ⟨⟨i :: path, scope, decl, number, a, g⟩, ?_, rfl⟩)
        refine (mem_sitesFrom_iff registry 0 d.members _).mpr
          ⟨m, i, List.mem_zipIdx_iff_getElem?.mpr hMember, ⟨path, scope, decl, number, a, g⟩, ?_, rfl⟩
        exact (ih m (List.mem_of_getElem? hMember) _).mpr ⟨hInner, hAttached, hName⟩

theorem site_of_member {d m : Decl} {i : Nat} (hMember : d.members[i]? = some m) {s : Site}
    (h : s ∈ registry.sites m) : (s.below i).inside d.name ∈ registry.sites d := by
  obtain ⟨hHeld, hAttached, hName⟩ := (registry.mem_sites_iff m s).mp h
  exact (registry.mem_sites_iff d _).mpr ⟨.member hMember hHeld, hAttached, hName⟩

/-! ## In which order they come -/

theorem sitesAt_pairwise (d : Decl) : (registry.sitesAt d).Pairwise Site.Before := by
  refine (pairwise_zipIdx d.attributes 0).filterMap _ ?_
  intro a b hLess s hSite t hOther
  obtain ⟨_, _, rfl⟩ := Option.map_eq_some_iff.mp hSite
  obtain ⟨_, _, rfl⟩ := Option.map_eq_some_iff.mp hOther
  exact .inr ⟨rfl, hLess⟩

theorem sitesFrom_pairwise (ds : List Decl)
    (h : ∀ d ∈ ds, (registry.sites d).Pairwise Site.Before) (i : Nat) :
    (registry.sitesFrom i ds).Pairwise Site.Before := by
  rw [sitesFrom_eq_flatMap, List.pairwise_flatMap]
  constructor
  · rintro ⟨d, index⟩ hMem
    rw [List.pairwise_map]
    exact (h d (List.fst_mem_of_mem_zipIdx hMem)).imp fun hBefore => hBefore.below index
  · refine (pairwise_zipIdx ds i).imp ?_
    intro _ _ hLess s hSite t hOther
    obtain ⟨s', _, rfl⟩ := List.mem_map.mp hSite
    obtain ⟨t', _, rfl⟩ := List.mem_map.mp hOther
    exact .inl (.earlier hLess s'.path t'.path)

theorem sites_pairwise (d : Decl) : (registry.sites d).Pairwise Site.Before := by
  induction d using Decl.members_induction with
  | step d ih =>
    rw [sites_eq, List.pairwise_append]
    refine ⟨?_, registry.sitesAt_pairwise d, ?_⟩
    · rw [List.pairwise_map]
      exact registry.sitesFrom_pairwise d.members ih 0
    · intro s hInner t hOwn
      obtain ⟨s', hMem, rfl⟩ := List.mem_map.mp hInner
      obtain ⟨_, i, _, u, _, rfl⟩ := (mem_sitesFrom_iff registry 0 d.members s').mp hMem
      obtain ⟨⟨hPath, _⟩, _⟩ := (registry.mem_sitesAt_iff d t).mp hOwn
      exact .inl (hPath ▸ .nested i u.path)

theorem before_of_split {i : Nat} {ds : List Decl} {s : Site} {before after : List Site}
    (h : registry.sitesFrom i ds = before ++ s :: after) :
    (∀ t ∈ before, t.Before s) ∧ ∀ t ∈ after, s.Before t := by
  have hOrder := registry.sitesFrom_pairwise ds (fun d _ => registry.sites_pairwise d) i
  rw [h, List.pairwise_append, List.pairwise_cons] at hOrder
  obtain ⟨_, ⟨hAfter, _⟩, hBefore⟩ := hOrder
  exact ⟨fun t hMem => hBefore t hMem s List.mem_cons_self, hAfter⟩

end Registry

end SwiftDerive
