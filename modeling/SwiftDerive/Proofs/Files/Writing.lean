import Mathlib.Data.List.Basic
import SwiftDerive.Proofs.Except
import SwiftDerive.Proofs.Files.Below

/-! # What writing changes

Two trees are compared place by place: each place has a file, a folder or nothing. Putting a file or an
empty folder into a folder changes the one place. So writing makes the folders on the way and puts the
one file at the place to which the path leads, and all other places stay as they are.
-/

namespace SwiftDerive

set_option autoImplicit false

/-- What there is at a place: a file, or a folder with whatever entries. -/
inductive Surface where
  | file (bytes : List UInt8)
  | locked (reason : String)
  | folder
  deriving DecidableEq, Repr

namespace Entry

def surface : Entry → Surface
  | .file bytes => .file bytes
  | .locked reason => .locked reason
  | .folder _ => .folder

def look? (tree : Entry) (names : List String) : Option Surface := (tree.below? names).map surface

theorem surface_eq_folder_iff (e : Entry) : e.surface = .folder ↔ ∃ children, e = .folder children := by
  cases e <;> simp [surface]

theorem surface_eq_file_iff (e : Entry) (bytes : List UInt8) :
    e.surface = .file bytes ↔ e = .file bytes := by
  cases e <;> simp [surface]

theorem look?_eq_folder_iff (tree : Entry) (names : List String) :
    tree.look? names = some .folder ↔ ∃ children, tree.below? names = some (.folder children) := by
  simp [look?, surface_eq_folder_iff]

theorem look?_eq_file_iff (tree : Entry) (names : List String) (bytes : List UInt8) :
    tree.look? names = some (.file bytes) ↔ tree.below? names = some (.file bytes) := by
  simp [look?, surface_eq_file_iff]

theorem look?_eq_none_iff (tree : Entry) (names : List String) :
    tree.look? names = none ↔ tree.below? names = none := by
  simp [look?]

theorem look?_nil_of_isFolder {tree : Entry} (h : tree.isFolder = true) :
    tree.look? [] = some .folder := by
  cases tree with
  | file bytes | locked reason => cases h
  | folder children => rfl

theorem below?_cons_of_surface {e : Entry} (h : e.surface ≠ .folder) (name : String)
    (names : List String) : e.below? (name :: names) = none := by
  cases e with
  | file bytes => rw [below?]
  | locked reason => rw [below?]
  | folder children => exact absurd rfl h

theorem below?_append (tree : Entry) (front rest : List String) :
    tree.below? (front ++ rest) = (tree.below? front).bind (·.below? rest) := by
  induction front generalizing tree with
  | nil => simp [below?]
  | cons name front ih =>
    cases tree with
    | file bytes => simp [below?]
    | locked reason => simp [below?]
    | folder children =>
      rw [List.cons_append, below?, below?, Option.bind_assoc]
      exact Option.bind_congr fun e _ => ih e

theorem look?_of_proper {tree : Entry} {front rest : List String} (hRest : rest ≠ [])
    (h : tree.look? (front ++ rest) ≠ none) : tree.look? front = some .folder := by
  rw [Ne, look?_eq_none_iff, below?_append] at h
  obtain ⟨name, names, rfl⟩ := List.exists_cons_of_ne_nil hRest
  cases hFront : tree.below? front with
  | none => simp [hFront] at h
  | some e =>
    rw [hFront, Option.bind_some] at h
    have hFolder : e.surface = .folder := by
      by_contra hOther
      exact h (below?_cons_of_surface hOther name names)
    rw [look?, hFront, Option.map_some, hFolder]

theorem look?_dropLast {tree : Entry} {names : List String} (h : tree.look? names = some .folder) :
    tree.look? names.dropLast = some .folder := by
  rcases List.eq_nil_or_concat' names with rfl | ⟨front, name, rfl⟩
  · exact h
  · rw [List.dropLast_concat]
    exact look?_of_proper (List.cons_ne_nil name []) (by rw [h]; exact Option.some_ne_none _)

/-! ## Putting an entry into a folder -/

variable {tree : Entry} {above : List String} {name : String}

theorem below?_put {children : List (String × Entry)}
    (h : tree.below? above = some (.folder children)) (new : Entry) :
    (tree.put (above ++ [name]) new).below? above = some (.folder (putEntry name new children)) := by
  induction above generalizing tree with
  | nil =>
    rw [below?, Option.some_inj] at h
    subst h
    rw [List.nil_append, put, put, below?]
  | cons next above ih =>
    cases tree with
    | file bytes => rw [below?] at h; cases h
    | locked reason => rw [below?] at h; cases h
    | folder entries =>
      rw [below?, Option.bind_eq_some_iff] at h
      obtain ⟨e, hLookup, hBelow⟩ := h
      rw [List.cons_append, put, below?, lookup_putEntry, if_pos rfl, hLookup]
      exact ih hBelow

theorem look?_put_outside (h : tree.look? above = some .folder) (new : Entry)
    {names : List String} (hOutside : ¬ above ++ [name] <+: names) :
    (tree.put (above ++ [name]) new).look? names = tree.look? names := by
  induction above generalizing tree names with
  | nil =>
    obtain ⟨children, hFolder⟩ := (look?_eq_folder_iff _ _).mp h
    rw [below?, Option.some_inj] at hFolder
    subst hFolder
    rw [List.nil_append, put, put]
    cases names with
    | nil => rfl
    | cons other names =>
      have hOther : other ≠ name := by
        rintro rfl
        exact hOutside (List.prefix_append [other] names)
      rw [look?, look?, below?, below?, lookup_putEntry, if_neg hOther]
  | cons next above ih =>
    cases tree with
    | file bytes => rw [look?, below?] at h; cases h
    | locked reason => rw [look?, below?] at h; cases h
    | folder entries =>
      rw [List.cons_append, put]
      cases names with
      | nil => rfl
      | cons other names =>
        rw [look?, look?, below?, below?, lookup_putEntry]
        by_cases hOther : other = next
        · subst hOther
          obtain ⟨children, hFolder⟩ := (look?_eq_folder_iff _ _).mp h
          rw [below?, Option.bind_eq_some_iff] at hFolder
          obtain ⟨e, hLookup, hBelow⟩ := hFolder
          rw [if_pos rfl, hLookup]
          exact ih ((look?_eq_folder_iff _ _).mpr ⟨children, hBelow⟩)
            fun hPrefix => hOutside ((List.prefix_cons_inj other).mpr hPrefix)
        · rw [if_neg hOther]

theorem look?_put (h : tree.look? above = some .folder)
    (hOld : tree.look? (above ++ [name]) ≠ some .folder) (new : Entry)
    (hNew : ∀ next names, new.below? (next :: names) = none) (names : List String) :
    (tree.put (above ++ [name]) new).look? names =
      if names = above ++ [name] then some new.surface else tree.look? names := by
  by_cases hInside : above ++ [name] <+: names
  · obtain ⟨rest, rfl⟩ := hInside
    obtain ⟨children, hFolder⟩ := (look?_eq_folder_iff _ _).mp h
    have hHere : (tree.put (above ++ [name]) new).below? (above ++ [name]) = some new := by
      rw [below?_append, below?_put hFolder, Option.bind_some, below?, lookup_putEntry, if_pos rfl,
        Option.bind_some, below?]
    rw [look?, below?_append, hHere, Option.bind_some]
    cases rest with
    | nil => rw [List.append_nil, if_pos rfl, below?, Option.map_some]
    | cons next rest =>
      -- Nothing is inside the new entry, and nothing was inside the old one, as it was no folder.
      rw [hNew, if_neg (by simp), Option.map_none]
      by_contra hBelow
      exact hOld (look?_of_proper (List.cons_ne_nil next rest) (Ne.symm hBelow))
  · have hOther : names ≠ above ++ [name] := by
      rintro rfl
      exact hInside List.prefix_rfl
    rw [look?_put_outside h new hInside, if_neg hOther]

/-! ## Trees with files written -/

/-- The files are written: each is at its place, every folder is still there, and at any other place
there is what there was, or a folder where there was nothing. -/
structure Writes (files : List (List String × List UInt8)) (tree written : Entry) : Prop where
  placed : ∀ file ∈ files, written.look? file.1 = some (.file file.2)
  folders : ∀ names, tree.look? names = some .folder → written.look? names = some .folder
  elsewhere : ∀ names, names ∉ files.map Prod.fst → written.look? names = tree.look? names ∨
    tree.look? names = none ∧ written.look? names = some .folder

namespace Writes

variable {files others : List (List String × List UInt8)} {written last : Entry}

theorem refl (tree : Entry) : Writes [] tree tree :=
  ⟨List.forall_mem_nil _, fun _ h => h, fun _ _ => .inl rfl⟩

theorem trans (h : Writes files tree written) (hLater : Writes others written last)
    (hApart : ∀ file ∈ files, file.1 ∉ others.map Prod.fst) : Writes (files ++ others) tree last where
  placed := by
    refine List.forall_mem_append.mpr ⟨fun file hMem => ?_, hLater.placed⟩
    have hPlaced := h.placed file hMem
    rcases hLater.elsewhere _ (hApart file hMem) with hSame | ⟨hNone, _⟩
    · rw [hSame, hPlaced]
    · rw [hPlaced] at hNone
      cases hNone
  folders names hFolder := hLater.folders names (h.folders names hFolder)
  elsewhere names hOther := by
    rw [List.map_append, List.mem_append, not_or] at hOther
    -- A folder is made once: what the first writing made is there in front of the second.
    rcases hLater.elsewhere names hOther.right with hSame | ⟨hNone, hFolder⟩
    · rw [hSame]
      exact h.elsewhere names hOther.left
    · rcases h.elsewhere names hOther.left with hBefore | ⟨_, hMade⟩
      · exact .inr ⟨hBefore ▸ hNone, hFolder⟩
      · rw [hNone] at hMade
        cases hMade

theorem look?_ne_none (h : Writes files tree written) {names : List String}
    (hThere : tree.look? names ≠ none) : written.look? names ≠ none := by
  by_cases hMem : names ∈ files.map Prod.fst
  · obtain ⟨file, hFile, rfl⟩ := List.mem_map.mp hMem
    rw [h.placed file hFile]
    exact Option.some_ne_none _
  · rcases h.elsewhere names hMem with hSame | ⟨hNone, _⟩
    · rwa [hSame]
    · exact absurd hNone hThere

end Writes

theorem writes_put_folder (h : tree.look? above = some .folder)
    (hNone : tree.look? (above ++ [name]) = none) :
    Writes [] tree (tree.put (above ++ [name]) (.folder [])) ∧
      (tree.put (above ++ [name]) (.folder [])).look? (above ++ [name]) = some .folder := by
  have hOld : tree.look? (above ++ [name]) ≠ some .folder := by
    rw [hNone]
    exact nofun
  have hLook := look?_put h hOld (.folder []) fun next names => by
    rw [below?, List.lookup_nil, Option.bind_none]
  refine ⟨⟨List.forall_mem_nil _, fun names hFolder => ?_, fun names _ => ?_⟩, ?_⟩
  · rw [hLook]
    split
    · rfl
    · exact hFolder
  · rw [hLook]
    split
    · next hSame => exact .inr ⟨hSame ▸ hNone, rfl⟩
    · exact .inl rfl
  · rw [hLook, if_pos rfl]
    rfl

theorem writes_put_file (h : tree.look? above = some .folder)
    (hOld : tree.look? (above ++ [name]) ≠ some .folder) (bytes : List UInt8) :
    Writes [(above ++ [name], bytes)] tree (tree.put (above ++ [name]) (.file bytes)) := by
  have hLook := look?_put h hOld (.file bytes) fun next names => by rw [below?]
  refine ⟨List.forall_mem_singleton.mpr ?_, fun names hFolder => ?_, fun names hOther => ?_⟩
  · rw [hLook, if_pos rfl]
    rfl
  · have hOther : names ≠ above ++ [name] := by
      rintro rfl
      exact hOld hFolder
    rw [hLook, if_neg hOther, hFolder]
  · rw [hLook, if_neg fun hSame : names = above ++ [name] => hOther (by simp [hSame])]
    exact .inl rfl

/-! ## Following a path -/

def descend (above : List String) (name : String) : List String :=
  if name = ".." then above.dropLast else above ++ [name]

theorem straight?_cons {names : List String} (hName : name ≠ "..")
    (h : tree.look? (above ++ [name]) ≠ none) :
    tree.straight? above (name :: names) = tree.straight? (above ++ [name]) names := by
  obtain ⟨e, hThere⟩ := Option.ne_none_iff_exists'.mp ((look?_eq_none_iff _ _).not.mp h)
  rw [Entry.straight?, hThere]
  exact hName

theorem Writes.straight? {files : List (List String × List UInt8)} {written : Entry}
    (h : Writes files tree written) {names place : List String}
    (hWay : tree.straight? above names = some place) : written.straight? above names = some place := by
  fun_induction tree.straight? above names with
  | case1 above => exact hWay
  | case2 above names children hFolder ih =>
    obtain ⟨inner, hKept⟩ := (look?_eq_folder_iff _ _).mp
      (h.folders above ((look?_eq_folder_iff _ _).mpr ⟨children, hFolder⟩))
    rw [Entry.straight?, hKept]
    exact ih hWay
  | case3 => cases hWay
  | case4 above name names hName e hThere ih =>
    rw [straight?_cons hName (h.look?_ne_none (by simp [look?, hThere]))]
    exact ih hWay
  | case5 => cases hWay

/-- The folders along the names are made, and nothing else; the names then lead to a folder. -/
theorem writes_withFolders {made : Entry} {names place : List String} {here : Path}
    {whole : Option Path} (hAbove : tree.look? above = some .folder)
    (h : tree.withFolders above here whole names = .ok (made, place)) :
    Writes [] tree made ∧ made.look? place = some .folder ∧ names.foldl descend above = place ∧
      made.straight? above names = some place := by
  fun_induction tree.withFolders above here whole names with
  | case1 =>
    cases h
    exact ⟨.refl _, hAbove, rfl, by rw [Entry.straight?]⟩
  | case2 tree above here whole names ih =>
    obtain ⟨hWrites, hPlace, hLeads, hStraight⟩ := ih (look?_dropLast hAbove) h
    obtain ⟨children, hFolder⟩ := (look?_eq_folder_iff _ _).mp (hWrites.folders above hAbove)
    exact ⟨hWrites, hPlace, hLeads, by rwa [Entry.straight?, hFolder]⟩
  | case3 tree above here whole name names hName _ children hFolder ih =>
    have hNext : tree.look? (above ++ [name]) = some .folder :=
      (look?_eq_folder_iff _ _).mpr ⟨children, hFolder⟩
    obtain ⟨hWrites, hPlace, hLeads, hStraight⟩ := ih hNext h
    refine ⟨hWrites, hPlace, ?_, ?_⟩
    · rwa [List.foldl_cons, descend, if_neg hName]
    · rwa [straight?_cons hName (by simp [hWrites.folders _ hNext])]
  | case4 => cases h
  | case5 => cases h
  | case6 tree above here whole name names hName _ hNone hFits ih =>
    obtain ⟨hMade, hNext⟩ := writes_put_folder hAbove ((look?_eq_none_iff _ _).mpr hNone)
    obtain ⟨hWrites, hPlace, hLeads, hStraight⟩ := ih hNext h
    refine ⟨hMade.trans hWrites (List.forall_mem_nil _), hPlace, ?_, ?_⟩
    · rwa [List.foldl_cons, descend, if_neg hName]
    · rwa [straight?_cons hName (by simp [hWrites.folders _ hNext])]
  | case7 => cases h

end Entry

def Path.place (path : Path) : List String := path.names.foldl Entry.descend []

theorem Path.place_append {names : List String} (h : ".." ∉ names) (path : Path) :
    (path.append names).place = path.place ++ names := by
  rw [Path.place, Path.append, List.foldl_append, ← Path.place]
  generalize path.place = above
  induction names generalizing above with
  | nil => simp
  | cons name names ih =>
    obtain ⟨hName, hNames⟩ := not_or.mp (mt List.mem_cons.mpr h)
    rw [List.foldl_cons, Entry.descend, if_neg (Ne.symm hName), ih hNames, List.append_assoc,
      List.singleton_append]

theorem Path.name_append_mem {names : List String} (h : names ≠ []) (path : Path) :
    (path.append names).name ∈ names := by
  rw [Path.name, Path.append, List.getLast?_append_of_ne_nil _ h, List.getLast?_eq_some_getLast h,
    Option.getD_some]
  exact List.getLast_mem h

namespace Entry

theorem straight?_append (tree : Entry) (above front rest : List String) :
    tree.straight? above (front ++ rest) =
      (tree.straight? above front).bind fun place => tree.straight? place rest := by
  fun_induction tree.straight? above front with
  | case1 => rfl
  | case2 above front children hFolder ih =>
    rw [List.cons_append, Entry.straight?, hFolder]
    exact ih
  | case3 above front hOther =>
    rw [List.cons_append, Entry.straight?]
    split
    · next children hFolder => exact absurd hFolder (hOther children)
    · rfl
  | case4 above name front hName e hThere ih =>
    rw [List.cons_append, straight?_cons hName (by simp [look?, hThere]), ih]
  | case5 above name front hName hNone =>
    rw [List.cons_append, Entry.straight?, hNone]
    · rfl
    · exact hName

/-- Writing puts the text at the place of the path, makes folders on the way, and changes nothing else;
the path then leads to that place. -/
theorem writes_write {tree written : Entry} {path : Path} {text : String}
    (hRoot : tree.look? [] = some .folder) (hNames : path.names ≠ []) (hName : path.name ≠ "..")
    (h : tree.write path text = .ok written) :
    Writes [(path.place, text.toUTF8.data.toList)] tree written ∧
      written.straight? [] path.names = some path.place := by
  obtain ⟨⟨made, above⟩, hFolder, hPut⟩ := (bind_eq_ok_iff _ _ _).mp h
  obtain ⟨hMade, hAbove, hLeads, hStraight⟩ := writes_withFolders hRoot hFolder
  have hSplit := Path.names_eq_concat hNames
  have hPlace : path.place = above ++ [path.name] := by
    rw [Path.place, hSplit, List.foldl_append, hLeads]
    exact if_neg hName
  obtain ⟨hOld, hWritten⟩ : made.look? (above ++ [path.name]) ≠ some .folder ∧
      made.put (above ++ [path.name]) (.file text.toUTF8.data.toList) = written := by
    dsimp only at hPut
    split at hPut
    · cases hPut
    · cases hPut
    · next hNotFolder _ =>
      refine ⟨fun hIs => ?_, Except.ok.inj hPut⟩
      obtain ⟨children, hThere⟩ := (look?_eq_folder_iff _ _).mp hIs
      exact hNotFolder children hThere
  have hPlaced := writes_put_file hAbove hOld text.toUTF8.data.toList
  rw [hWritten, ← hPlace] at hPlaced
  refine ⟨hMade.trans hPlaced (List.forall_mem_nil _), ?_⟩
  have hThere := hPlaced.placed _ List.mem_cons_self
  rw [hPlace] at hThere
  rw [hSplit, straight?_append, hPlaced.straight? hStraight, Option.bind_some,
    straight?_cons hName (by simp [hThere]), Entry.straight?, hPlace]

end Entry

end SwiftDerive
