import Mathlib.Data.List.Infix
import Mathlib.Data.List.Lex
import Mathlib.Data.String.Basic
import SwiftDerive.Discovery
import SwiftDerive.Proofs.Except
import SwiftDerive.Proofs.Files.Below

/-! # What a walk finds

A walk gets to the entries that neither are passed over nor stand in a folder that is. Visiting a
folder exchanges it for the folders in it, and no folder of the queue leads into another; so every
source file that can be got to is found, and found once.
-/

namespace SwiftDerive.Discovery

set_option autoImplicit false

open Entry (Stands)

variable {ignored : Matcher}

/-! ## Entries of one folder -/

theorem mem_keptEntries_iff (above : List String) (children : List (String × Entry))
    (names : List String) (e : Entry) :
    (names, e) ∈ keptEntries ignored above children ↔
      ∃ name, (name, e) ∈ children ∧ names = above ++ [name] ∧ passes ignored names e = false := by
  simp only [keptEntries, listing, List.mem_filter, List.mem_map, List.mem_mergeSort, Prod.mk.injEq,
    Prod.exists, Bool.not_eq_true']
  constructor
  · rintro ⟨⟨name, _, hMem, hNames, rfl⟩, hKept⟩
    exact ⟨name, hMem, hNames.symm, hKept⟩
  · rintro ⟨name, hMem, hNames, hKept⟩
    exact ⟨⟨name, e, hMem, hNames.symm, rfl⟩, hKept⟩

theorem mem_foldersAmong_iff (entries : List (List String × Entry)) (names : List String)
    (inner : List (String × Entry)) :
    (names, inner) ∈ foldersAmong entries ↔ (names, Entry.folder inner) ∈ entries := by
  rw [foldersAmong, List.mem_filterMap]
  constructor
  · rintro ⟨⟨_, e⟩, hMem, hFolder⟩
    cases e with
    | file bytes => cases hFolder
    | locked reason => cases hFolder
    | folder children =>
      cases hFolder
      exact hMem
  · intro hMem
    exact ⟨_, hMem, rfl⟩

theorem nodup_listing (above : List String) {children : List (String × Entry)}
    (h : DistinctKeys children) : ((listing above children).map Prod.fst).Nodup := by
  have hPerm := List.mergeSort_perm children fun a b => decide (a.1 ≤ b.1)
  have hSorted := h.of_perm hPerm.symm
  have hNames : (listing above children).map Prod.fst =
      (keysOf (children.mergeSort fun a b => decide (a.1 ≤ b.1))).map fun name => above ++ [name] := by
    rw [listing, keysOf, List.map_map, List.map_map]
    rfl
  rw [hNames]
  refine hSorted.map fun a b hSame => ?_
  exact List.singleton_inj.mp (List.append_cancel_left hSame)

/-! ## Where a walk gets -/

inductive Reaches (ignored : Matcher) : Waiting → List String → Entry → Prop
  | here {folder : Waiting} {names : List String} {e : Entry}
      (hKept : (names, e) ∈ keptEntries ignored folder.1 folder.2) : Reaches ignored folder names e
  | onward {folder inner : Waiting} {names : List String} {e : Entry}
      (hFolder : inner ∈ foldersAmong (keptEntries ignored folder.1 folder.2))
      (hInner : Reaches ignored inner names e) : Reaches ignored folder names e

theorem exists_reaches_cons_iff (above : List String) (children : List (String × Entry))
    (queue : List Waiting) (names : List String) (e : Entry) :
    (∃ folder ∈ (above, children) :: queue, Reaches ignored folder names e) ↔
      (names, e) ∈ keptEntries ignored above children ∨
        ∃ folder ∈ queue ++ foldersAmong (keptEntries ignored above children),
          Reaches ignored folder names e := by
  simp only [List.mem_cons, List.mem_append]
  constructor
  · rintro ⟨folder, rfl | hQueue, hReaches⟩
    · cases hReaches with
      | here hKept => exact .inl hKept
      | onward hFolder hInner => exact .inr ⟨_, .inr hFolder, hInner⟩
    · exact .inr ⟨folder, .inl hQueue, hReaches⟩
  · rintro (hKept | ⟨folder, hQueue | hFolder, hReaches⟩)
    · exact ⟨_, .inl rfl, .here hKept⟩
    · exact ⟨folder, .inr hQueue, hReaches⟩
    · exact ⟨_, .inl rfl, .onward hFolder hReaches⟩

theorem mem_walk_iff (queue : List Waiting) (names : List String) (e : Entry) :
    (names, e) ∈ walk ignored queue ↔
      isSource names e = true ∧ ∃ folder ∈ queue, Reaches ignored folder names e := by
  fun_induction walk ignored queue with
  | case1 => simp
  | case2 above children queue ih =>
    rw [List.mem_append, ih, sourcesAmong, List.mem_filter, exists_reaches_cons_iff]
    tauto

def WayOpen (ignored : Matcher) (above names : List String) : Prop :=
  ∀ front, above <+: front → front ≠ above → front <+: names → front ≠ names →
    passes ignored front (.folder []) = false

theorem wayOpen_single (above : List String) (name : String) :
    WayOpen ignored above (above ++ [name]) := by
  intro front hAbove hOther hFront hNotAll
  rcases List.prefix_concat_iff.mp hFront with hAll | hBack
  · exact absurd hAll hNotAll
  · exact absurd (hBack.eq_of_length_le hAbove.length_le) hOther

theorem wayOpen_cons_iff (above : List String) (name : String) {rest : List String}
    (hRest : rest ≠ []) :
    WayOpen ignored above (above ++ name :: rest) ↔
      passes ignored (above ++ [name]) (.folder []) = false ∧
        WayOpen ignored (above ++ [name]) (above ++ name :: rest) := by
  have hWay : above ++ [name] <+: above ++ name :: rest := ⟨rest, by simp⟩
  constructor
  · intro h
    refine ⟨h _ (List.prefix_append _ _) (by simp) hWay (by simpa using hRest.symm), ?_⟩
    intro front hAbove hOther
    refine h front ((List.prefix_append above [name]).trans hAbove) ?_
    rintro rfl
    simpa using hAbove.length_le
  · rintro ⟨hFirst, hLater⟩ front hAbove hOther hFront hNotAll
    obtain ⟨tail, rfl⟩ := hAbove
    cases tail with
    | nil => simp at hOther
    | cons first tail =>
      obtain ⟨rfl, -⟩ := List.cons_prefix_cons.mp ((List.prefix_append_right_inj above).mp hFront)
      cases tail with
      | nil => exact hFirst
      | cons second tail => exact hLater _ ⟨second :: tail, by simp⟩ (by simp) hFront hNotAll

/-- A walk gets to what stands below the folder, where neither it nor a folder on the way is passed
over. -/
theorem reaches_iff (folder : Waiting) (names : List String) (e : Entry) :
    Reaches ignored folder names e ↔ ∃ rest, names = folder.1 ++ rest ∧ Stands folder.2 rest e ∧
      WayOpen ignored folder.1 names ∧ passes ignored names e = false := by
  constructor
  · intro h
    induction h with
    | here hKept =>
      obtain ⟨name, hMem, rfl, hPassed⟩ := (mem_keptEntries_iff _ _ _ _).mp hKept
      exact ⟨[name], rfl, .here hMem, wayOpen_single _ name, hPassed⟩
    | onward hFolder _ ih =>
      obtain ⟨rest, rfl, hStands, hOpen, hPassed⟩ := ih
      obtain ⟨name, hMem, hAbove, hFirst⟩ :=
        (mem_keptEntries_iff _ _ _ _).mp ((mem_foldersAmong_iff _ _ _).mp hFolder)
      rw [hAbove, List.append_assoc, List.singleton_append] at hOpen hPassed ⊢
      rw [hAbove] at hFirst
      refine ⟨name :: rest, rfl, .inside hMem hStands, ?_, hPassed⟩
      exact (wayOpen_cons_iff _ name hStands.ne_nil).mpr ⟨hFirst, hOpen⟩
  · obtain ⟨above, children⟩ := folder
    rintro ⟨rest, rfl, hStands, hOpen, hPassed⟩
    dsimp only at hStands hOpen hPassed ⊢
    induction hStands generalizing above with
    | here hMem => exact .here ((mem_keptEntries_iff _ _ _ _).mpr ⟨_, hMem, rfl, hPassed⟩)
    | @inside children inner name rest e hMem hInner ih =>
      obtain ⟨hFirst, hLater⟩ := (wayOpen_cons_iff above name hInner.ne_nil).mp hOpen
      have hKept : (above ++ [name], inner) ∈ foldersAmong (keptEntries ignored above children) :=
        (mem_foldersAmong_iff _ _ _).mpr ((mem_keptEntries_iff _ _ _ _).mpr ⟨name, hMem, rfl, hFirst⟩)
      have hAgain : above ++ name :: rest = above ++ [name] ++ rest := by simp
      rw [hAgain] at hLater hPassed ⊢
      exact .onward hKept (ih (above ++ [name]) hLater hPassed)

/-! ## Each file once -/

def Apart (a b : List String) : Prop := ¬ a <+: b ∧ ¬ b <+: a

structure QueueApart (queue : List Waiting) : Prop where
  tidy : ∀ folder ∈ queue, (Entry.folder folder.2).Tidy
  apart : (queue.map Prod.fst).Pairwise Apart

theorem Apart.concat {a b : List String} (h : Apart a b) (name : String) :
    Apart b (a ++ [name]) := by
  constructor
  · intro hPrefix
    rcases List.prefix_concat_iff.mp hPrefix with rfl | hBack
    · exact h.left (List.prefix_append a [name])
    · exact h.right hBack
  · exact fun hPrefix => h.left ((List.prefix_append a [name]).trans hPrefix)

theorem apart_concat {name other : String} (h : name ≠ other) (above : List String) :
    Apart (above ++ [name]) (above ++ [other]) := by
  have hNot {a b : String} (hOther : a ≠ b) : ¬ above ++ [a] <+: above ++ [b] := by
    intro hPrefix
    exact hOther (List.singleton_inj.mp (List.append_cancel_left
      (hPrefix.eq_of_length (by simp))))
  exact ⟨hNot h, hNot h.symm⟩

theorem exists_of_mem_foldersAmong {above : List String} {children : List (String × Entry)}
    {folder : Waiting} (h : folder ∈ foldersAmong (keptEntries ignored above children)) :
    ∃ name, (name, Entry.folder folder.2) ∈ children ∧ folder.1 = above ++ [name] := by
  obtain ⟨name, hMem, hNames, _⟩ :=
    (mem_keptEntries_iff _ _ _ _).mp ((mem_foldersAmong_iff _ _ _).mp h)
  exact ⟨name, hMem, hNames⟩

theorem foldersAmong_names_sublist (entries : List (List String × Entry)) :
    ((foldersAmong entries).map Prod.fst).Sublist (entries.map Prod.fst) := by
  induction entries with
  | nil => exact .slnil
  | cons entry entries ih =>
    obtain ⟨names, e⟩ := entry
    cases e with
    | file bytes => exact ih.cons _
    | locked reason => exact ih.cons _
    | folder children => exact ih.cons_cons _

/-- Visiting the first folder keeps the folders of the queue apart. -/
theorem QueueApart.step {above : List String} {children : List (String × Entry)}
    {queue : List Waiting} (h : QueueApart ((above, children) :: queue)) :
    QueueApart (queue ++ foldersAmong (keptEntries ignored above children)) := by
  obtain ⟨hHead, hQueue⟩ := List.forall_mem_cons.mp h.tidy
  obtain ⟨hFirst, hRest⟩ := List.pairwise_cons.mp h.apart
  obtain ⟨hDistinct, hInner⟩ := (Entry.tidy_folder_iff children).mp hHead
  constructor
  · refine List.forall_mem_append.mpr ⟨hQueue, fun folder hMem => ?_⟩
    obtain ⟨name, hChild, _⟩ := exists_of_mem_foldersAmong hMem
    exact (hInner _ hChild).right
  · rw [List.map_append]
    refine List.pairwise_append.mpr ⟨hRest, ?_, ?_⟩
    · -- Two folders of one listing have different last names.
      have hNodup : ((foldersAmong (keptEntries ignored above children)).map Prod.fst).Nodup :=
        ((foldersAmong_names_sublist _).trans (List.filter_sublist.map Prod.fst)).nodup
          (nodup_listing above hDistinct)
      refine List.Pairwise.imp_of_mem ?_ hNodup
      intro a b hA hB hOther
      obtain ⟨folder, hFolder, rfl⟩ := List.mem_map.mp hA
      obtain ⟨other, hFolder', rfl⟩ := List.mem_map.mp hB
      obtain ⟨name, _, hName⟩ := exists_of_mem_foldersAmong hFolder
      obtain ⟨name', _, hName'⟩ := exists_of_mem_foldersAmong hFolder'
      rw [hName, hName'] at hOther ⊢
      exact apart_concat (fun hSame => hOther (by rw [hSame])) above
    · intro a hA b hB
      obtain ⟨folder, hFolder, rfl⟩ := List.mem_map.mp hB
      obtain ⟨name, _, hName⟩ := exists_of_mem_foldersAmong hFolder
      rw [hName]
      exact (hFirst a hA).concat name

theorem exists_of_mem_walk {queue : List Waiting} {names : List String} {e : Entry}
    (h : (names, e) ∈ walk ignored queue) : ∃ folder ∈ queue, folder.1 <+: names ∧ folder.1 ≠ names := by
  obtain ⟨_, folder, hMem, hReaches⟩ := (mem_walk_iff queue names e).mp h
  obtain ⟨rest, rfl, hStands, _⟩ := (reaches_iff folder names e).mp hReaches
  exact ⟨folder, hMem, List.prefix_append _ _, by simpa using hStands.ne_nil.symm⟩

theorem nodup_walk {queue : List Waiting} (h : QueueApart queue) :
    ((walk ignored queue).map Prod.fst).Nodup := by
  fun_induction walk ignored queue with
  | case1 => exact List.nodup_nil
  | case2 above children queue ih =>
    have hDistinct := ((Entry.tidy_folder_iff _).mp (h.tidy _ List.mem_cons_self)).left
    rw [List.map_append]
    refine List.nodup_append.mpr ⟨?_, ih h.step, ?_⟩
    · exact ((List.filter_sublist.trans List.filter_sublist).map Prod.fst).nodup
        (nodup_listing above hDistinct)
    · rintro names hHere _ hLater rfl
      obtain ⟨⟨_, e⟩, hSource, rfl⟩ := List.mem_map.mp hHere
      obtain ⟨⟨_, e'⟩, hWalk, hNames⟩ := List.mem_map.mp hLater
      obtain ⟨name, _, hName, _⟩ :=
        (mem_keptEntries_iff _ _ _ _).mp (List.mem_filter.mp hSource).left
      obtain ⟨folder, hFolder, hPrefix, hProper⟩ := exists_of_mem_walk hWalk
      dsimp only at hNames hName
      rw [hNames, hName] at hPrefix hProper
      have hBack := (List.prefix_concat_iff.mp hPrefix).resolve_left hProper
      rcases List.mem_append.mp hFolder with hQueue | hInner
      · exact ((List.pairwise_cons.mp h.apart).left _ (List.mem_map_of_mem hQueue)).right hBack
      · obtain ⟨other, _, hOther⟩ := exists_of_mem_foldersAmong hInner
        rw [hOther] at hBack
        simpa using hBack.length_le

/-! ## In order -/

theorem inOrder_perm {α : Type} (found : List (List String × α)) : (inOrder found).Perm found :=
  List.mergeSort_perm found _

theorem mem_inOrder_iff {α : Type} (found : List (List String × α)) (item : List String × α) :
    item ∈ inOrder found ↔ item ∈ found :=
  (inOrder_perm found).mem_iff

theorem pairwise_inOrder {α : Type} {found : List (List String × α)}
    (h : (found.map Prod.fst).Nodup) : ((inOrder found).map Prod.fst).Pairwise (· < ·) := by
  have hLe : ∀ a b : List String × α, (!b.1.lex a.1) = true ↔ a.1 ≤ b.1 := fun a b => by
    rw [Bool.not_eq_true', List.lex_eq_false_iff_ge]
    exact not_lt
  have hSorted : (inOrder found).Pairwise fun a b => (!b.1.lex a.1) = true :=
    List.pairwise_mergeSort
      (fun a b c hAB hBC => (hLe a c).mpr (((hLe a b).mp hAB).trans ((hLe b c).mp hBC)))
      (fun a b => by
        rw [Bool.or_eq_true, hLe, hLe]
        exact le_total a.1 b.1) found
  have hNodup : ((inOrder found).map Prod.fst).Nodup :=
    ((inOrder_perm found).map Prod.fst).nodup_iff.mpr h
  rw [List.Nodup, List.pairwise_map] at hNodup
  rw [List.pairwise_map]
  exact hSorted.imp₂ (fun a b hAB hOther => lt_of_le_of_ne ((hLe a b).mp hAB) hOther) hNodup

theorem eq_of_pairwise_fst {α : Type} {as bs : List (List String × α)}
    (hAs : (as.map Prod.fst).Pairwise (· < ·)) (hBs : (bs.map Prod.fst).Pairwise (· < ·))
    (h : ∀ item, item ∈ as ↔ item ∈ bs) : as = bs := by
  have hNodup {items : List (List String × α)} (hItems : (items.map Prod.fst).Pairwise (· < ·)) :
      items.Nodup :=
    List.Nodup.of_map Prod.fst (hItems.imp fun hLess => ne_of_lt hLess)
  refine List.Perm.eq_of_pairwise (fun a b _ _ hLess hGreater => ?_) (List.pairwise_map.mp hAs)
    (List.pairwise_map.mp hBs) ((List.perm_ext_iff_of_nodup (hNodup hAs) (hNodup hBs)).mpr h)
  exact absurd hLess (lt_asymm hGreater)

/-- No pattern takes an entry out: neither the entry nor a folder on the way to it is ignored, and the
way does not lead through a hidden folder. -/
structure Unignored (ignored : Matcher) (names : List String) : Prop where
  itself : ignored (Path.joined names) false = false
  folders : ∀ front, front ≠ [] → front <+: names → front ≠ names →
    ignored (Path.joined front) true = false ∧ front.getLast? ≠ some hiddenFolder

theorem unignored_iff {names : List String} {e : Entry} (h : e.isFolder = false) :
    WayOpen ignored [] names ∧ passes ignored names e = false ↔ Unignored ignored names := by
  have hFolder : ∀ front, passes ignored front (.folder []) = false ↔
      ignored (Path.joined front) true = false ∧ front.getLast? ≠ some hiddenFolder := fun front => by
    simp [passes, Entry.isFolder, and_comm]
  have hItself : passes ignored names e = ignored (Path.joined names) false := by
    simp [passes, h]
  rw [hItself]
  constructor
  · rintro ⟨hOpen, hNames⟩
    exact ⟨hNames, fun front hNonempty hFront hProper =>
      (hFolder front).mp (hOpen front List.nil_prefix hNonempty hFront hProper)⟩
  · rintro ⟨hNames, hFolders⟩
    exact ⟨fun front _ hNonempty hFront hProper =>
      (hFolder front).mpr (hFolders front hNonempty hFront hProper), hNames⟩

theorem mem_sources_iff (children : List (String × Entry)) (names : List String) (e : Entry) :
    (names, e) ∈ sources ignored children ↔
      Stands children names e ∧ isSource names e = true ∧ Unignored ignored names := by
  rw [sources, mem_inOrder_iff, mem_walk_iff]
  simp only [List.mem_singleton, exists_eq_left, reaches_iff, List.nil_append, exists_eq_left']
  constructor
  · rintro ⟨hSource, hStands, hWay⟩
    exact ⟨hStands, hSource, (unignored_iff (by simp_all [isSource])).mp hWay⟩
  · rintro ⟨hStands, hSource, hWay⟩
    exact ⟨hSource, hStands, (unignored_iff (by simp_all [isSource])).mpr hWay⟩

theorem pairwise_sources {children : List (String × Entry)} (h : (Entry.folder children).Tidy) :
    ((sources ignored children).map Prod.fst).Pairwise (· < ·) := by
  refine pairwise_inOrder (nodup_walk ⟨List.forall_mem_singleton.mpr h, ?_⟩)
  exact List.pairwise_singleton _ _

theorem discover_of_folder {tree : Entry} {path : Path} {children : List (String × Entry)}
    (hFolder : tree.find? path = some (.folder children)) {lines : List RuleLine}
    (hLines : ruleLines path children = .ok lines) :
    discover tree path = .ok ((sources (Ignore.skips (patternsOf lines)) children).map fun (names, e) =>
      ⟨path.append names, names, e⟩) := by
  simp only [discover, hFolder, hLines]

/-- The folder below which discovery names the files: the one at the path, or that of the file there. -/
def base (tree : Entry) (path : Path) : Path :=
  match tree.find? path with
  | some (.folder _) => path
  | _ => path.parent

structure FoundFile (base : Path) (file : Found) : Prop where
  isFile : file.entry.isFolder = false
  path_eq : file.path = base.append file.names
  names_ne_nil : file.names ≠ []
  inside : ".." ∉ file.names

theorem foundFile_of_requireFile {tree : Entry} {path : Path} {file : Found}
    (h : requireFile tree path = .ok file) : FoundFile path.parent file := by
  simp only [requireFile] at h
  split at h
  · cases h
  · split at h
    · next e _ hSource =>
      cases h
      rw [isSource, Bool.and_eq_true, Bool.not_eq_true', ← Path.name] at hSource
      obtain ⟨hFile, hName⟩ := hSource
      have hNames : path.names ≠ [] := by
        intro hNone
        rw [Path.name, hNone] at hName
        exact absurd hName (by decide)
      refine ⟨hFile, ?_, List.cons_ne_nil _ _, fun hMem => ?_⟩
      · exact congrArg (Path.mk path.root) (Path.names_eq_concat hNames)
      · rw [← List.mem_singleton.mp hMem] at hName
        exact absurd hName (by decide)
    · cases h

theorem discovered {tree : Entry} {path : Path} {found : List Found} (hTidy : tree.Tidy)
    (h : discover tree path = .ok found) :
    (found.map Found.names).Pairwise (· < ·) ∧ ∀ file ∈ found, FoundFile (base tree path) file := by
  simp only [discover] at h
  split at h
  · next children hFolder =>
    have hBase : base tree path = path := by
      rw [base, hFolder]
    rw [hBase]
    split at h
    · cases h
    · cases h
      have hBelow := hTidy.find? hFolder
      constructor
      · rw [List.map_map]
        exact pairwise_sources hBelow
      · refine List.forall_mem_map.mpr fun ⟨names, e⟩ hMem => ?_
        obtain ⟨hStands, hSource, _⟩ := (mem_sources_iff _ _ _).mp hMem
        rw [isSource, Bool.and_eq_true, Bool.not_eq_true'] at hSource
        refine ⟨hSource.left, rfl, hStands.ne_nil, fun hOutside => ?_⟩
        exact absurd (hStands.isEntryName hBelow _ hOutside) (by decide)
  · next hOther =>
    have hBase : base tree path = path.parent := by
      rw [base]
      split
      · next children hFolder => exact absurd hFolder (hOther children)
      · rfl
    rw [hBase]
    obtain ⟨file, hFile, rfl⟩ := (map_eq_ok_iff _ _ _).mp h
    exact ⟨List.pairwise_singleton _ _,
      List.forall_mem_singleton.mpr (foundFile_of_requireFile hFile)⟩

theorem isFolder_of_discover {tree : Entry} {path : Path} {found : List Found}
    (h : discover tree path = .ok found) : tree.isFolder = true := by
  by_contra hOther
  have hFind {e : Entry} (hThere : tree.find? path = some e) : path.names = [] ∧ tree = e :=
    Entry.find?_of_not_folder (Bool.eq_false_iff.mpr hOther) hThere
  simp only [discover] at h
  split at h
  · next children hFolder =>
    obtain ⟨_, rfl⟩ := hFind hFolder
    exact hOther rfl
  · obtain ⟨file, hFile, _⟩ := (map_eq_ok_iff _ _ _).mp h
    simp only [requireFile] at hFile
    split at hFile
    · cases hFile
    · next e hThere =>
      -- A path without names has no ending.
      rw [(hFind hThere).left, isSource, Bool.and_comm] at hFile
      cases hFile

/-- Whatever the matcher, the source files of a folder in a tidy tree are the files below it with the
ending of source files that are not taken out, each of them once, in the order of their names. These
are what discovery gives, with the matcher of the patterns that stand in the folder. -/
theorem discover_exact {tree : Entry} {path : Path} {children : List (String × Entry)}
    (hTidy : tree.Tidy) (hFolder : tree.find? path = some (.folder children)) (ignored : Matcher) :
    (∀ names e, (names, e) ∈ sources ignored children ↔
        Stands children names e ∧ e.isFolder = false ∧
          extension? (names.getLast?.getD "") = some "swift" ∧ Unignored ignored names) ∧
      ((sources ignored children).map Prod.fst).Pairwise (· < ·) ∧
      ∀ lines, ruleLines path children = .ok lines →
        discover tree path =
          .ok ((sources (Ignore.skips (patternsOf lines)) children).map fun (names, e) =>
            ⟨path.append names, names, e⟩) := by
  refine ⟨fun names e => ?_, pairwise_sources (hTidy.find? hFolder), fun lines hLines =>
    discover_of_folder hFolder hLines⟩
  rw [mem_sources_iff, isSource, isSourceName, Bool.and_eq_true, Bool.not_eq_true', beq_iff_eq,
    and_assoc]

def shelf : List (String × Entry) :=
  [("notes.md", .file []), ("lib", .folder [("b.swift", .file []), ("a.swift", .locked "Denied")]),
    ("build", .folder [("c.swift", .file [])]), (".git", .folder [("d.swift", .file [])])]

theorem discover_exact_shelf :
    (Entry.folder [("shelf", .folder shelf)]).Tidy ∧
      (Entry.folder [("shelf", .folder shelf)]).find? ⟨"", ["shelf"]⟩ = some (.folder shelf) ∧
      (["lib", "a.swift"], .locked "Denied") ∈ sources (fun path _ => path == "build") shelf ∧
      (["build", "c.swift"], .file []) ∉ sources (fun path _ => path == "build") shelf ∧
      ([".git", "d.swift"], .file []) ∉ sources (fun path _ => path == "build") shelf := by
  have hTidy : (Entry.folder [("shelf", .folder shelf)]).Tidy := by decide
  have hFolder : (Entry.folder [("shelf", .folder shelf)]).find? ⟨"", ["shelf"]⟩ =
      some (.folder shelf) := rfl
  have hExact := (discover_exact hTidy hFolder fun path _ => path == "build").left
  refine ⟨hTidy, rfl, (hExact _ _).mpr ⟨?_, rfl, by decide, by decide, ?_⟩, fun h => ?_, fun h => ?_⟩
  · have hLib : ("lib", .folder [("b.swift", .file []), ("a.swift", .locked "Denied")]) ∈ shelf := by
      simp [shelf]
    exact .inside hLib (.here (by simp))
  · intro front hNonempty hFront hProper
    have hInits := (List.mem_inits _ _).mpr hFront
    have hLib : front = ["lib"] := by simpa [hNonempty, hProper] using hInits
    rw [hLib]
    decide
  · obtain ⟨_, _, _, hUnignored⟩ := (hExact _ _).mp h
    have hBuild := hUnignored.folders ["build"] (by decide) (by simp) (by simp)
    exact absurd hBuild.left (by decide)
  · obtain ⟨_, _, _, hUnignored⟩ := (hExact _ _).mp h
    have hHidden := hUnignored.folders [".git"] (by decide) (by simp) (by simp)
    exact absurd hHidden.right (by decide)

end SwiftDerive.Discovery
