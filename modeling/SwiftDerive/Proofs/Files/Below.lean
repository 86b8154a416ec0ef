import SwiftDerive.Files.Tree
import SwiftDerive.Proofs.Entries

/-! # What stands below a folder

In a tidy tree each folder has its entries under distinct names, and the names are those that a folder
can have. So an entry below a folder is determined by the names that lead to it, and everything that
stands below a tidy folder is tidy.
-/

namespace SwiftDerive

set_option autoImplicit false

def isEntryName (name : String) : Bool :=
  name ≠ "" && name ≠ "." && name ≠ ".." && !name.toList.contains '/'

theorem isEntryName_iff (name : String) :
    isEntryName name = true ↔ name ≠ "" ∧ name ≠ "." ∧ name ≠ ".." ∧ '/' ∉ name.toList := by
  simp [isEntryName, and_assoc]

theorem Path.names_eq_concat {path : Path} (h : path.names ≠ []) :
    path.names = path.parent.names ++ [path.name] := by
  rw [Path.parent, Path.name, List.getLast?_eq_some_getLast h, Option.getD_some]
  exact (List.dropLast_append_getLast h).symm

namespace Entry

mutual

/-- Whether the entries of each folder have distinct names that entries can have. -/
def isTidy : Entry → Bool
  | .file _ | .locked _ => true
  | .folder children => areTidy children

def areTidy : List (String × Entry) → Bool
  | [] => true
  | (name, e) :: children =>
    isEntryName name && !(keysOf children).contains name && e.isTidy && areTidy children

end

def Tidy (e : Entry) : Prop := e.isTidy = true

instance (e : Entry) : Decidable e.Tidy := inferInstanceAs (Decidable (e.isTidy = true))

theorem tidy_folder_iff (children : List (String × Entry)) :
    (folder children).Tidy ↔
      DistinctKeys children ∧ ∀ child ∈ children, isEntryName child.1 = true ∧ child.2.Tidy := by
  unfold Tidy
  rw [isTidy]
  induction children with
  | nil => simp [areTidy, distinctKeys_nil]
  | cons child children ih =>
    rw [areTidy, distinctKeys_cons_iff, List.forall_mem_cons]
    simp only [Bool.and_eq_true, Bool.not_eq_true', List.contains_eq_mem, decide_eq_false_iff_not, ih]
    grind

inductive Stands : List (String × Entry) → List String → Entry → Prop
  | here {children : List (String × Entry)} {name : String} {e : Entry}
      (hMem : (name, e) ∈ children) : Stands children [name] e
  | inside {children inner : List (String × Entry)} {name : String} {names : List String} {e : Entry}
      (hMem : (name, folder inner) ∈ children) (hInner : Stands inner names e) :
      Stands children (name :: names) e

namespace Stands

variable {children : List (String × Entry)} {names : List String} {e : Entry}

theorem ne_nil (h : Stands children names e) : names ≠ [] := by
  cases h <;> exact List.cons_ne_nil _ _

theorem not_nil : ¬ Stands [] names e := by
  rintro (hMem | hMem) <;> cases hMem

theorem cons_iff (first : String × Entry) :
    Stands (first :: children) names e ↔ (names = [first.1] ∧ e = first.2) ∨
      (∃ inner rest, first.2 = folder inner ∧ names = first.1 :: rest ∧ Stands inner rest e) ∨
        Stands children names e := by
  constructor
  · intro h
    cases h with
    | here hMem =>
      rcases List.mem_cons.mp hMem with rfl | hLater
      · exact .inl ⟨rfl, rfl⟩
      · exact .inr (.inr (.here hLater))
    | inside hMem hInner =>
      rcases List.mem_cons.mp hMem with rfl | hLater
      · exact .inr (.inl ⟨_, _, rfl, rfl, hInner⟩)
      · exact .inr (.inr (.inside hLater hInner))
  · obtain ⟨name, entry⟩ := first
    rintro (⟨rfl, rfl⟩ | ⟨inner, rest, rfl, rfl, hInner⟩ | hLater)
    · exact .here List.mem_cons_self
    · exact .inside List.mem_cons_self hInner
    · cases hLater with
      | here hMem => exact .here (List.mem_cons_of_mem _ hMem)
      | inside hMem hInner => exact .inside (List.mem_cons_of_mem _ hMem) hInner

theorem isEntryName (h : Stands children names e) (hTidy : (folder children).Tidy) :
    ∀ name ∈ names, SwiftDerive.isEntryName name = true := by
  induction h with
  | here hMem =>
    have hChild := ((tidy_folder_iff _).mp hTidy).right _ hMem
    exact List.forall_mem_singleton.mpr hChild.left
  | inside hMem _ ih =>
    have hChild := ((tidy_folder_iff _).mp hTidy).right _ hMem
    exact List.forall_mem_cons.mpr ⟨hChild.left, ih hChild.right⟩

theorem tidy (h : Stands children names e) (hTidy : (folder children).Tidy) : e.Tidy := by
  induction h with
  | here hMem => exact (((tidy_folder_iff _).mp hTidy).right _ hMem).right
  | inside hMem _ ih => exact ih (((tidy_folder_iff _).mp hTidy).right _ hMem).right

/-- Below a tidy folder the names tell which entry they lead to. -/
theorem iff_below? (hTidy : (folder children).Tidy) (hNames : names ≠ []) :
    Stands children names e ↔ (folder children).below? names = some e := by
  induction names generalizing children with
  | nil => exact absurd rfl hNames
  | cons name names ih =>
    obtain ⟨hDistinct, hChildren⟩ := (tidy_folder_iff _).mp hTidy
    rw [below?, Option.bind_eq_some_iff]
    constructor
    · intro h
      cases h with
      | here hMem => exact ⟨e, (hDistinct.lookup_eq_some_iff _ _).mpr hMem, by rw [below?]⟩
      | inside hMem hInner =>
        refine ⟨_, (hDistinct.lookup_eq_some_iff _ _).mpr hMem, ?_⟩
        exact (ih (hChildren _ hMem).right hInner.ne_nil).mp hInner
    · rintro ⟨child, hLookup, hBelow⟩
      have hMem := (hDistinct.lookup_eq_some_iff _ _).mp hLookup
      cases names with
      | nil =>
        rw [below?, Option.some_inj] at hBelow
        exact hBelow ▸ .here hMem
      | cons next names =>
        cases child with
        | file bytes => rw [below?] at hBelow; cases hBelow
        | locked reason => rw [below?] at hBelow; cases hBelow
        | folder inner =>
          exact .inside hMem ((ih (hChildren _ hMem).right (List.cons_ne_nil _ _)).mpr hBelow)

end Stands

theorem Tidy.below? {tree e : Entry} {names : List String} (hTidy : tree.Tidy)
    (hBelow : tree.below? names = some e) : e.Tidy := by
  cases names with
  | nil =>
    rw [Entry.below?, Option.some_inj] at hBelow
    exact hBelow ▸ hTidy
  | cons name names =>
    cases tree with
    | file bytes => rw [Entry.below?] at hBelow; cases hBelow
    | locked reason => rw [Entry.below?] at hBelow; cases hBelow
    | folder children =>
      exact ((Stands.iff_below? hTidy (List.cons_ne_nil _ _)).mpr hBelow).tidy hTidy

theorem Tidy.find? {tree e : Entry} {path : Path} (hTidy : tree.Tidy)
    (hFind : tree.find? path = some e) : e.Tidy := by
  obtain ⟨names, _, hBelow⟩ := Option.bind_eq_some_iff.mp hFind
  exact hTidy.below? hBelow

theorem find?_of_not_folder {tree e : Entry} {path : Path} (hOther : tree.isFolder = false)
    (hFind : tree.find? path = some e) : path.names = [] ∧ tree = e := by
  obtain ⟨place, hStraight, hBelow⟩ := Option.bind_eq_some_iff.mp hFind
  cases hNames : path.names with
  | nil =>
    rw [hNames, straight?] at hStraight
    cases hStraight
    rw [below?, Option.some_inj] at hBelow
    exact ⟨rfl, hBelow⟩
  | cons name names =>
    exfalso
    rw [hNames, straight?.eq_def] at hStraight
    cases tree with
    | folder children => cases hOther
    | file bytes | locked reason =>
      split at hStraight
      · next hNone => cases hNone
      · cases hStraight
      · cases hStraight

end Entry

end SwiftDerive
