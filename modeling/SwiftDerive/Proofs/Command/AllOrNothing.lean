import SwiftDerive.Command.Run
import SwiftDerive.Proofs.Discovery.Walk
import SwiftDerive.Proofs.Expansion.Printed
import SwiftDerive.Proofs.Files.Writing
import SwiftDerive.Proofs.Reading.PrintedDeclarations

/-! # Expanding all files or none

All files are expanded before the first is written. So a file that cannot be read, is no text or does
not parse leaves the tree as it was; and nothing else keeps a file from being expanded, since what
expansion gives can always be printed.
-/

namespace SwiftDerive.Expand

set_option autoImplicit false

open Discovery (Found FoundFile)
open Entry (Writes)

variable {grammar : GrammarReader} {base : Path} {file : Found}

/-! ## Files that are refused -/

/-- The file cannot be opened, its bytes are no text, or the text does not parse; and what is told of
it. -/
inductive Refused (grammar : GrammarReader) (file : Found) : Failure → Prop
  | locked {reason : String} (hEntry : file.entry = .locked reason) :
    Refused grammar file (.unreadable file.path (.locked reason file.path))
  | notText {bytes : List UInt8} {fault : Text.Utf8Fault} (hEntry : file.entry = .file bytes)
      (hDecode : Text.decodeUtf8 bytes = .error fault) :
    Refused grammar file (.unreadable file.path (.notText fault))
  | unparsable {text : String} {error : ParseError} (hRead : file.read = .ok text)
      (hParse : Reading.parseSourceFile text (grammar text) = .error error) :
    Refused grammar file (.unparsable file.path error)

theorem read_eq_error_iff (hFile : FoundFile base file) (fault : FileFault) :
    file.read = .error fault ↔
      (∃ reason, file.entry = .locked reason ∧ fault = .locked reason file.path) ∨
        ∃ bytes problem, file.entry = .file bytes ∧ Text.decodeUtf8 bytes = .error problem ∧
          fault = .notText problem := by
  obtain ⟨path, names, entry⟩ := file
  cases entry with
  | file bytes =>
    simp only [Found.read, Entry.read, Entry.textOf, mapError_eq_error_iff, map_eq_error_iff]
    simp [eq_comm]
  | locked reason => simp [Found.read, Entry.read, eq_comm]
  | folder children => cases hFile.isFile

theorem readFile_eq_error_iff (hFile : FoundFile base file) (failure : Failure) :
    readFile grammar file = .error failure ↔ Refused grammar file failure := by
  simp only [readFile, bind_eq_error_iff, mapError_eq_error_iff, mapError_eq_ok_iff]
  constructor
  · rintro (⟨fault, hRead, rfl⟩ | ⟨text, hRead, error, hParse, rfl⟩)
    · rcases (read_eq_error_iff hFile fault).mp hRead with
        ⟨reason, hEntry, rfl⟩ | ⟨_, _, hEntry, hDecode, rfl⟩
      · exact .locked hEntry
      · exact .notText hEntry hDecode
    · exact .unparsable hRead hParse
  · rintro (hEntry | ⟨hEntry, hDecode⟩ | ⟨hRead, hParse⟩)
    · exact .inl ⟨_, (read_eq_error_iff hFile _).mpr (.inl ⟨_, hEntry, rfl⟩), rfl⟩
    · exact .inl ⟨_, (read_eq_error_iff hFile _).mpr (.inr ⟨_, _, hEntry, hDecode, rfl⟩), rfl⟩
    · exact .inr ⟨_, hRead, _, hParse, rfl⟩

theorem exists_expandFound {parsed : SourceFile} (hRead : readFile grammar file = .ok parsed) :
    ∃ x, expandFound grammar file = .ok x := by
  obtain ⟨text, _, hParse⟩ := (bind_eq_ok_iff _ _ _).mp hRead
  obtain ⟨source, hSource⟩ := Registry.exists_render_expandFile
    (Reading.printed_parseSourceFile ((mapError_eq_ok_iff _ _ _).mp hParse))
  exact ⟨_, (bind_eq_ok_iff _ _ _).mpr ⟨parsed, hRead, (bind_eq_ok_iff _ _ _).mpr
    ⟨source, (mapError_eq_ok_iff _ _ _).mpr hSource, rfl⟩⟩⟩

theorem expandFound_eq_error_iff (hFile : FoundFile base file) (failure : Failure) :
    expandFound grammar file = .error failure ↔ Refused grammar file failure := by
  rw [← readFile_eq_error_iff hFile]
  cases hRead : readFile grammar file with
  | error e => simp [expandFound, hRead, bind, Except.bind]
  | ok parsed =>
    obtain ⟨x, hExpand⟩ := exists_expandFound hRead
    simp [hExpand]

theorem not_refused_iff (hFile : FoundFile base file) :
    (∀ failure, ¬ Refused grammar file failure) ↔ ∃ x, expandFound grammar file = .ok x := by
  simp only [← expandFound_eq_error_iff hFile]
  cases expandFound grammar file <;> simp

theorem names_of_expandFound {x : FileExpansion} (h : expandFound grammar file = .ok x) :
    x.names = file.names := by
  obtain ⟨parsed, _, hSource⟩ := (bind_eq_ok_iff _ _ _).mp h
  obtain ⟨source, _, hResult⟩ := (bind_eq_ok_iff _ _ _).mp hSource
  cases hResult
  rfl

/-! ## Writing all expansions -/

def FileExpansion.placed (output : Path) (x : FileExpansion) : List String × List UInt8 :=
  ((output.append x.names).place, (x.source ++ "\n").toUTF8.data.toList)

theorem writes_writeAll {output : Path} {tree written : Entry} {xs : List FileExpansion}
    (hRoot : tree.look? [] = some .folder) (hInside : ∀ x ∈ xs, x.names ≠ [] ∧ ".." ∉ x.names)
    (hPlaces : ((xs.map (FileExpansion.placed output)).map Prod.fst).Nodup)
    (h : writeAll output tree xs = (written, none)) :
    Writes (xs.map (FileExpansion.placed output)) tree written ∧
      ∀ x ∈ xs, written.straight? [] (output.append x.names).names =
        some (output.append x.names).place := by
  induction xs generalizing tree with
  | nil =>
    cases h
    exact ⟨.refl _, List.forall_mem_nil _⟩
  | cons x xs ih =>
    obtain ⟨⟨hNonempty, hNames⟩, hLater⟩ := List.forall_mem_cons.mp hInside
    obtain ⟨hNew, hRest⟩ := List.nodup_cons.mp hPlaces
    simp only [writeAll] at h
    split at h
    · next made hWrite =>
      obtain ⟨hFirst, hWay⟩ := Entry.writes_write hRoot (List.append_ne_nil_of_right_ne_nil _ hNonempty)
        (fun hOutside => hNames (hOutside ▸ output.name_append_mem hNonempty)) hWrite
      obtain ⟨hOthers, hWays⟩ := ih (hFirst.folders [] hRoot) hLater hRest h
      refine ⟨hFirst.trans hOthers (List.forall_mem_singleton.mpr hNew), ?_⟩
      exact List.forall_mem_cons.mpr ⟨hOthers.straight? hWay, hWays⟩
    · cases h

theorem nodup_places {xs : List FileExpansion} (hNames : ∀ x ∈ xs, ".." ∉ x.names)
    (hDistinct : (xs.map FileExpansion.names).Nodup) (output : Path) :
    ((xs.map (FileExpansion.placed output)).map Prod.fst).Nodup := by
  have hPlaces : (xs.map (FileExpansion.placed output)).map Prod.fst =
      (xs.map FileExpansion.names).map (output.place ++ ·) := by
    rw [List.map_map, List.map_map]
    exact List.map_congr_left fun x hMem => Path.place_append (hNames x hMem) output
  rw [hPlaces]
  exact hDistinct.map (List.append_right_injective _)

/-! ## The whole run -/

theorem run_of_error {tree : Entry} {path output : String} {asJson : Bool} (launch : Launcher)
    {failure : Failure} (h : expandAll grammar tree (Path.ofString path) = .error failure) :
    (Command.expand path (some output) asJson).run grammar launch tree =
      ⟨.failure, .nothing, failure.message ++ "\n", tree⟩ := by
  rw [Command.run, run, h]
  dsimp only [Failure.outcome]
  rw [String.empty_append]

theorem run_of_written {tree written : Entry} {path output : String} {asJson : Bool}
    (launch : Launcher) {xs : List FileExpansion} (hOutput : output ≠ "")
    (h : expandAll grammar tree (Path.ofString path) = .ok xs)
    (hWritten : writeAll (Path.ofString output) tree xs = (written, none)) :
    (Command.expand path (some output) asJson).run grammar launch tree =
      ⟨statusOf xs, .nothing, String.join (xs.map FileExpansion.messages), written⟩ := by
  have hFolder : Command.outputFolder (some output) = some (Path.ofString output) :=
    if_neg (by simpa using hOutput)
  rw [Command.run, run, h, hFolder]
  dsimp only
  rw [hWritten]

theorem code_statusOf (xs : List FileExpansion) :
    ((∃ x ∈ xs, x.diagnostics ≠ []) → (statusOf xs).code = 1) ∧
      ((∀ x ∈ xs, x.diagnostics = []) → (statusOf xs).code = 0) := by
  constructor
  · intro h
    rw [statusOf, if_pos (by simpa using h)]
    rfl
  · intro h
    rw [statusOf, if_neg (by simpa using h)]
    rfl

theorem exists_expandAll {found : List Found} (hFiles : ∀ file ∈ found, FoundFile base file)
    (h : ∀ file ∈ found, ∀ failure, ¬ Refused grammar file failure) :
    ∃ xs, found.mapM (expandFound grammar) = .ok xs := by
  cases hRun : found.mapM (expandFound grammar) with
  | ok xs => exact ⟨xs, rfl⟩
  | error failure =>
    obtain ⟨before, first, after, rfl, _, hFirst⟩ := (mapM_eq_error_iff _ _ _).mp hRun
    have hMem : first ∈ before ++ first :: after := List.mem_append_right _ List.mem_cons_self
    exact absurd ((expandFound_eq_error_iff (hFiles first hMem) failure).mp hFirst)
      (h first hMem failure)

/-- If a file is refused, the files are not expanded, for the reason of the first that is. -/
theorem exists_first_refused {found : List Found} (hFiles : ∀ file ∈ found, FoundFile base file)
    (h : ∃ file ∈ found, ∃ failure, Refused grammar file failure) :
    ∃ before first after failure, found = before ++ first :: after ∧
      (∀ file ∈ before, ∀ failure, ¬ Refused grammar file failure) ∧ Refused grammar first failure ∧
      found.mapM (expandFound grammar) = .error failure := by
  cases hRun : found.mapM (expandFound grammar) with
  | ok xs =>
    obtain ⟨file, hMem, failure, hRefused⟩ := h
    obtain ⟨x, _, hExpand⟩ := exists_of_mem_left ((mapM_eq_ok_iff _ _ _).mp hRun) hMem
    exact absurd hRefused ((not_refused_iff (hFiles file hMem)).mpr ⟨x, hExpand⟩ failure)
  | error failure =>
    obtain ⟨before, first, after, rfl, hBefore, hFirst⟩ := (mapM_eq_error_iff _ _ _).mp hRun
    obtain ⟨hFront, hRest⟩ := List.forall_mem_append.mp hFiles
    refine ⟨before, first, after, failure, rfl, fun file hMem => ?_, ?_, rfl⟩
    · exact (not_refused_iff (hFront file hMem)).mpr (hBefore file hMem)
    · exact (expandFound_eq_error_iff (hRest first List.mem_cons_self) failure).mp hFirst

/-- The run ends with one message, and neither prints nor changes anything. -/
structure NothingDone (tree : Entry) (failure : Failure) (outcome : Outcome) : Prop where
  tree_eq : outcome.tree = tree
  output_eq : outcome.output = .nothing
  messages_eq : outcome.messages = failure.message ++ "\n"
  code_eq : outcome.status.code = 2

/-- The expansions stand at places of their own below the output folder, nothing else is written, and the
status tells whether there are diagnostics. -/
structure AllWritten (output : Path) (tree : Entry) (xs : List FileExpansion) (outcome : Outcome) :
    Prop where
  nodup : ((xs.map (FileExpansion.placed output)).map Prod.fst).Nodup
  writes : Writes (xs.map (FileExpansion.placed output)) tree outcome.tree
  find?_eq : ∀ x ∈ xs, outcome.tree.find? (output.append x.names) =
    some (.file (x.source ++ "\n").toUTF8.data.toList)
  output_eq : outcome.output = .nothing
  code_of_diagnostic : (∃ x ∈ xs, x.diagnostics ≠ []) → outcome.status.code = 1
  code_of_none : (∀ x ∈ xs, x.diagnostics = []) → outcome.status.code = 0

def drawer : List (String × Entry) := [("B.swift", .locked "Denied"), ("A.swift", .file [])]

def desk : Entry := .folder [("in", .folder drawer)]

def bareGrammar : GrammarReader := fun _ => ⟨"source_file", true, false, false, false, 0, 0, []⟩

def opened : Found := ⟨⟨"", ["in", "A.swift"]⟩, ["A.swift"], .file []⟩

def closed : Found := ⟨⟨"", ["in", "B.swift"]⟩, ["B.swift"], .locked "Denied"⟩

theorem discover_desk : Discovery.discover desk (Path.ofString "in") = .ok [opened, closed] := by
  have hLines : Discovery.ruleLines ⟨"", ["in"]⟩ drawer = .ok [] := by
    simp [Discovery.ruleLines, drawer, Discovery.patternFilesIn, Discovery.patternFilesAt,
      Discovery.inOrder, Discovery.patternFile]
    rfl
  have hNone : ∀ cs, Ignore.ignores [] cs = false := fun _ => rfl
  have hListing : Discovery.listing [] drawer =
      [(["A.swift"], .file []), (["B.swift"], .locked "Denied")] := by
    simp [Discovery.listing, drawer, List.mergeSort]
  have hKept : Discovery.keptEntries (Ignore.skips []) [] drawer =
      [(["A.swift"], .file []), (["B.swift"], .locked "Denied")] := by
    simp [Discovery.keptEntries, hListing, Discovery.passes, Ignore.skips, hNone, Entry.isFolder]
  have hWalk : Discovery.walk (Ignore.skips []) [([], drawer)] =
      [(["A.swift"], .file []), (["B.swift"], .locked "Denied")] := by
    rw [Discovery.walk, hKept, List.nil_append]
    simp only [Discovery.foldersAmong, List.filterMap_cons, List.filterMap_nil, Discovery.walk]
    rfl
  have hSources : Discovery.sources (Ignore.skips []) drawer =
      [(["A.swift"], .file []), (["B.swift"], .locked "Denied")] := by
    rw [Discovery.sources, hWalk]
    exact List.mergeSort_of_pairwise (List.pairwise_pair.mpr (by decide))
  have hFolder : desk.find? (Path.ofString "in") = some (.folder drawer) := rfl
  refine (Discovery.discover_of_folder hFolder hLines).trans ?_
  rw [Discovery.patternsOf, List.filterMap_nil, hSources]
  rfl

theorem expandFound_opened : expandFound bareGrammar opened = .ok ⟨["A.swift"], "", [], 0⟩ := rfl

theorem not_refused_opened (failure : Failure) : ¬ Refused bareGrammar opened failure := by
  have hFile : FoundFile ⟨"", ["in"]⟩ opened := ⟨rfl, rfl, by decide, by decide⟩
  exact (not_refused_iff hFile).mpr ⟨_, expandFound_opened⟩ failure

def deskRun (path : String) : Outcome :=
  (Command.expand path (some "out") false).run bareGrammar (KnownCompiler.launcher []) desk

end SwiftDerive.Expand
