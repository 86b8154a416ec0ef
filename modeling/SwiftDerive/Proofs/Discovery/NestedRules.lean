import SwiftDerive.Proofs.Discovery.Anchored
import SwiftDerive.Proofs.Except

/-! # Plain names in nested files of patterns

The patterns of `Ignore` anchor a line that is a path with a slash inside, so a plain name in a file of
patterns of a folder below the walked one takes out what stands under this name in the folder itself,
and nothing deeper.
-/

namespace SwiftDerive.Discovery

set_option autoImplicit false

open Entry (Stands)

/-! ## The lines of a tree -/

mutual

theorem mem_patternFilesAt_iff (above names : List String) (e : Entry) : (tree : Entry) →
    ((names, e) ∈ patternFilesAt above tree ↔ ∃ inner rest, tree = .folder inner ∧
      names = above ++ rest ∧ Stands inner rest e ∧ rest.getLast? = some patternFile)
  | .file bytes | .locked reason => by simp [patternFilesAt]
  | .folder children => by
    rw [patternFilesAt, mem_patternFilesIn_iff above names e children]
    simp

theorem mem_patternFilesIn_iff (above names : List String) (e : Entry) :
    (children : List (String × Entry)) → ((names, e) ∈ patternFilesIn above children ↔
      ∃ rest, names = above ++ rest ∧ Stands children rest e ∧ rest.getLast? = some patternFile)
  | [] => by simp [patternFilesIn, Stands.not_nil]
  | (name, entry) :: children => by
    have hHere : (names, e) ∈ (if name = patternFile then [(above ++ [name], entry)] else []) ↔
        name = patternFile ∧ names = above ++ [name] ∧ e = entry := by
      split <;> simp_all
    rw [patternFilesIn, List.mem_append, List.mem_append, hHere, or_assoc,
      mem_patternFilesAt_iff (above ++ [name]) names e entry,
      mem_patternFilesIn_iff above names e children]
    constructor
    · rintro (⟨rfl, rfl, rfl⟩ | ⟨inner, rest, rfl, rfl, hStands, hLast⟩ | ⟨rest, rfl, hStands, hLast⟩)
      · exact ⟨_, rfl, (Stands.cons_iff _).mpr (.inl ⟨rfl, rfl⟩), rfl⟩
      · refine ⟨name :: rest, by simp, (Stands.cons_iff _).mpr (.inr (.inl ?_)), ?_⟩
        · exact ⟨_, _, rfl, rfl, hStands⟩
        · rw [List.getLast?_cons_of_ne_nil hStands.ne_nil, hLast]
      · exact ⟨rest, rfl, (Stands.cons_iff _).mpr (.inr (.inr hStands)), hLast⟩
    · rintro ⟨rest, rfl, hStands, hLast⟩
      rcases (Stands.cons_iff _).mp hStands with ⟨rfl, rfl⟩ | ⟨inner, rest, rfl, rfl, hInner⟩ | hLater
      · exact .inl ⟨by simpa using hLast, rfl, rfl⟩
      · rw [List.getLast?_cons_of_ne_nil hInner.ne_nil] at hLast
        exact .inr (.inl ⟨inner, rest, rfl, by simp, hInner, hLast⟩)
      · exact .inr (.inr ⟨rest, rfl, hLater, hLast⟩)

end

theorem mem_ruleLines_iff {root : Path} {children : List (String × Entry)} {lines : List RuleLine}
    (hLines : ruleLines root children = .ok lines) (l : RuleLine) :
    l ∈ lines ↔ ∃ e text, Stands children (l.folder ++ [patternFile]) e ∧
      e.read (root.append (l.folder ++ [patternFile])) = .ok text ∧ l.text ∈ Text.allLines text.toList := by
  obtain ⟨found, hFound, hFlat⟩ := (bind_eq_ok_iff _ _ _).mp hLines
  cases hFlat
  have hEach := (mapM_eq_ok_iff _ _ _).mp hFound
  constructor
  · intro hMem
    obtain ⟨ls, hLs, hLine⟩ := List.mem_flatten.mp hMem
    obtain ⟨⟨names, e⟩, hFile, hRead⟩ := exists_of_mem_right hEach hLs
    obtain ⟨text, hText, hSame⟩ := (bind_eq_ok_iff _ _ _).mp hRead
    cases hSame
    obtain ⟨line, hIn, rfl⟩ := List.mem_map.mp hLine
    obtain ⟨_, rfl, hStands, hLast⟩ :=
      (mem_patternFilesIn_iff _ _ _ _).mp ((mem_inOrder_iff _ _).mp hFile)
    have hWhole : names.dropLast ++ [patternFile] = names := List.dropLast_append_getLast? _ hLast
    dsimp only
    rw [hWhole]
    exact ⟨e, text, hStands, hText, hIn⟩
  · rintro ⟨e, text, hStands, hText, hIn⟩
    have hFile : (l.folder ++ [patternFile], e) ∈ inOrder (patternFilesIn [] children) :=
      (mem_inOrder_iff _ _).mpr ((mem_patternFilesIn_iff _ _ _ _).mpr ⟨_, rfl, hStands, by simp⟩)
    obtain ⟨ls, hLs, hRead⟩ := exists_of_mem_left hEach hFile
    obtain ⟨text', hText', hSame⟩ := (bind_eq_ok_iff _ _ _).mp hRead
    cases hSame
    rw [hText] at hText'
    cases hText'
    exact List.mem_flatten.mpr ⟨_, hLs, List.mem_map.mpr ⟨l.text, hIn, by simp⟩⟩

/-! ## The pattern of a place -/

def placePattern (names : List String) : Ignore.Pattern :=
  ⟨false, .steps ((Path.joined names).toList.map Ignore.Step.char) .anywhere⟩

theorem splitOn_joined {names : List String} (hNames : ∀ name ∈ names, '/' ∉ name.toList)
    (hNonempty : names ≠ []) : (Path.joined names).toList.splitOn '/' = names.map String.toList := by
  rw [toList_joined, List.splitOn_intercalate '/' (List.forall_mem_map.mpr hNames) (by simpa)]

section PlainLine

variable {base : List String} {name : String}

theorem PlainFolder.segments (hFolder : PlainFolder base) (hName : Ignore.isPlainName name = true) :
    ∀ s ∈ (base ++ [name]).map String.toList, Ignore.PlainSegment s := by
  refine List.forall_mem_map.mpr fun n hMem => Ignore.plainSegment_of_isPlainName ?_
  rcases List.mem_append.mp hMem with hBase | hLast
  · exact hFolder.plain n hBase
  · exact List.mem_singleton.mp hLast ▸ hName

theorem pattern?_placeLine (hFolder : PlainFolder base) (hName : PlainLine name) :
    Ignore.pattern? (placeLine base name) = some (placePattern (base ++ [name])) := by
  have hPlace := placeLine_eq hFolder.nested name
  refine Ignore.pattern?_of_plain (hFolder.segments hName.plain) ?_ (toList_joined _) ?_ ?_
  · have hLength := List.length_pos_iff.mpr hFolder.nested
    simp only [List.length_map, List.length_append, List.length_singleton]
    omega
  · rw [hPlace, List.head?_append_of_ne_nil _ hFolder.joined_ne_nil]
    exact hFolder.unmarked
  · obtain ⟨c, cs, hChars⟩ :=
      List.exists_cons_of_ne_nil (Ignore.plainSegment_of_isPlainName hName.plain).nonempty
    intro d hLast
    refine hName.unpadded d ?_
    rw [← hLast, hPlace, hChars, List.getLast?_append_of_ne_nil _ (List.cons_ne_nil _ _),
      List.getLast?_cons_cons]

/-! ## What the pattern hits -/

/-- How an entry can be called for a path to it to be read as one to `name`: a line feed at the end of a
path does not show. -/
def ReadsAs (name last : String) : Prop := last = name ∨ last = name ++ "\n"

def leadsInto (base : List String) (name : String) (names : List String) : Bool :=
  (base ++ [name]).isPrefixOf names || (base ++ [name ++ "\n"]).isPrefixOf names

theorem leadsInto_iff (base : List String) (name : String) (names : List String) :
    leadsInto base name names = true ↔ LeadsTo ReadsAs base name names := by
  simp [leadsInto, LeadsTo, ReadsAs, or_and_right, exists_or]

instance (base : List String) (name : String) : DecidablePred (LeadsTo ReadsAs base name) :=
  fun names => decidable_of_iff _ (leadsInto_iff base name names)

theorem hit?_place (hNested : base ≠ []) {last : String} (hLast : ReadsAs name last) :
    (placePattern (base ++ [name])).shape.hit? (placeLine base last) = some .itself := by
  refine (Ignore.hitSteps?_char_eq_some_iff _ _ _ _).mpr ?_
  rw [← placeLine.eq_def base name, placeLine_eq hNested, placeLine_eq hNested]
  rcases hLast with rfl | rfl
  · exact ⟨[], by simp, rfl⟩
  · exact ⟨['\n'], by simp, rfl⟩

theorem prefix_of_append_eq {place segments more : List Ignore.Segment} {mark : List Ignore.Segment}
    (hMark : mark = [] ∨ mark = [[]]) (hPlace : place.getLast? ≠ some [])
    (hSame : segments ++ mark = place ++ more) : place <+: segments := by
  rcases hMark with rfl | rfl
  · exact ⟨more, by rw [← hSame, List.append_nil]⟩
  · rcases List.eq_nil_or_concat' more with rfl | ⟨front, segment, rfl⟩
    · rw [List.append_nil] at hSame
      simp [← hSame] at hPlace
    · rw [← List.append_assoc] at hSame
      exact ⟨front, (List.append_inj_left' hSame rfl).symm⟩

theorem exists_splitOn_of_hit? (hFolder : PlainFolder base) (hName : Ignore.isPlainName name = true)
    {rest : List Char} {hit : Ignore.Hit} (hEnd : Ignore.Ending.anywhere.hit? rest = some hit) :
    ∃ last more, ReadsAs name last ∧ last ≠ "" ∧
      (placeLine base name ++ rest).splitOn '/' = (base ++ [last]).map String.toList ++ more := by
  have hPlain := Ignore.plainSegment_of_isPlainName hName
  have hNonempty : name ≠ "" := fun h => hPlain.nonempty (h ▸ rfl)
  have hSplit : ∀ last : String, '/' ∉ last.toList →
      (placeLine base last).splitOn '/' = (base ++ [last]).map String.toList := by
    refine fun last hLast => splitOn_joined (fun n hMem => ?_) (by simp)
    rcases List.mem_append.mp hMem with hBase | hHere
    · exact (Ignore.plainSegment_of_isPlainName (hFolder.plain n hBase)).whole
    · exact List.mem_singleton.mp hHere ▸ hLast
  rcases (Ignore.Ending.hit?_anywhere_eq_some_iff _ _).mp hEnd with
    ⟨-, rfl | rfl⟩ | ⟨-, below, rfl⟩
  · exact ⟨name, [], .inl rfl, hNonempty, by simpa using hSplit name hPlain.whole⟩
  · have hLine : placeLine base name ++ ['\n'] = placeLine base (name ++ "\n") := by
      simp [placeLine_eq hFolder.nested]
    refine ⟨name ++ "\n", [], .inr rfl, by simp [hNonempty], ?_⟩
    rw [hLine, List.append_nil]
    exact hSplit _ (by simpa using hPlain.whole)
  · exact ⟨name, below.splitOn '/', .inl rfl, hNonempty, by
      rw [List.splitOn_append_cons_self, hSplit name hPlain.whole]⟩

/-- The pattern of a place hits only paths that lead to the place or into it, whether or not a slash
marks them as folders. -/
theorem leadsTo_of_hit? (hFolder : PlainFolder base) (hName : Ignore.isPlainName name = true)
    {names : List String} (hNames : ∀ n ∈ names, '/' ∉ n.toList) (hNonempty : names ≠ [])
    {mark : List Char} (hMark : mark = [] ∨ mark = ['/']) {hit : Ignore.Hit}
    (hHit : (placePattern (base ++ [name])).shape.hit? ((Path.joined names).toList ++ mark) = some hit) :
    LeadsTo ReadsAs base name names := by
  obtain ⟨rest, hPath, hEnd⟩ := (Ignore.hitSteps?_char_eq_some_iff _ _ _ _).mp hHit
  -- Both sides are cut at their slashes: the mark leaves an empty segment, the place its names.
  obtain ⟨empty, hEmpty, hNamesSplit⟩ : ∃ empty : List Ignore.Segment, (empty = [] ∨ empty = [[]]) ∧
      ((Path.joined names).toList ++ mark).splitOn '/' = names.map String.toList ++ empty := by
    rcases hMark with rfl | rfl
    · exact ⟨[], .inl rfl, by simp [splitOn_joined hNames hNonempty]⟩
    · exact ⟨[[]], .inr rfl, by rw [List.splitOn_append_cons_self, splitOn_joined hNames hNonempty]; rfl⟩
  obtain ⟨last, more, hLast, hLastNonempty, hPlaceSplit⟩ := exists_splitOn_of_hit? hFolder hName hEnd
  refine ⟨last, hLast, (List.prefix_map_iff_of_injective fun a b => String.toList_injective).mp ?_⟩
  refine prefix_of_append_eq hEmpty ?_ (hNamesSplit.symm.trans (hPath ▸ hPlaceSplit))
  simpa using hLastNonempty

/-! ## What the line takes out -/

theorem filterMap_pattern?_append_cons (hFolder : PlainFolder base) (hName : PlainLine name)
    (before after : List Text.Line) :
    (before ++ placeLine base name :: after).filterMap Ignore.pattern? =
      before.filterMap Ignore.pattern? ++
        placePattern (base ++ [name]) :: after.filterMap Ignore.pattern? := by
  rw [List.filterMap_append, List.filterMap_cons, pattern?_placeLine hFolder hName]

theorem anchors_globLibrary : globLibrary.Anchors ReadsAs where
  place hFolder hName hLast before := by
    rw [globLibrary, filterMap_pattern?_append_cons hFolder hName]
    exact Ignore.ignores_append_cons_of_itself (hit?_place hFolder.nested hLast) rfl
      (List.forall_mem_nil _)
  elsewhere hFolder hName hNames hNonempty hOutside mark hMark before after := by
    rw [globLibrary, globLibrary, filterMap_pattern?_append_cons hFolder hName,
      List.filterMap_append]
    apply Ignore.ignores_append_cons_of_none
    refine Option.eq_none_iff_forall_ne_some.mpr fun hit hHit => ?_
    exact hOutside (leadsTo_of_hit? hFolder hName.plain hNames hNonempty hMark hHit)

def KeptBy (after : List Ignore.Pattern) (base : List String) (name : String) : Prop :=
  ∀ last, ReadsAs name last → ∀ q ∈ after, q.negated = true →
    q.shape.hit? (Path.joined (base ++ [last])).toList ≠ some .itself

theorem KeptBy.keeps {after : List RuleLine} (hKept : KeptBy (patternsOf after) base name)
    (hFolder : PlainFolder base) (hName : PlainLine name) (before : List Text.Line) :
    globLibrary.Keeps ReadsAs before (after.map RuleLine.moved) base name := by
  intro last hLast _
  rw [globLibrary, filterMap_pattern?_append_cons hFolder hName, ← patternsOf_eq_filterMap]
  exact Ignore.ignores_append_cons_of_itself (hit?_place hFolder.nested hLast) rfl (hKept last hLast)

end PlainLine

/-- A line that is a plain name, in a file of patterns below the walked folder, takes out what stands
under this name in the folder of the file and below it, and nothing else: discovery gives what it would
give without the line, less that. So it does what it is meant to do exactly if no other source file
stands at or below an entry of this name deeper in the folder. -/
theorem nested_line_takes_children {tree : Entry} {path : Path} {children : List (String × Entry)}
    (hTidy : tree.Tidy) (hTree : tree.find? path = some (.folder children))
    {before after : List RuleLine} {base : List String} {name : String}
    (hLines : ruleLines path children = .ok (before ++ ⟨base, name.toList⟩ :: after))
    (hFolder : PlainFolder base) (hName : PlainLine name)
    (hKept : KeptBy (patternsOf after) base name) :
    (∃ e text, Stands children (base ++ [patternFile]) e ∧
        e.read (path.append (base ++ [patternFile])) = .ok text ∧
        name.toList ∈ Text.allLines text.toList) ∧
      discover tree path = .ok (((sources (Ignore.skips (patternsOf (before ++ after))) children).filter
        fun (names, _) => !leadsInto base name names).map fun (names, e) =>
          ⟨path.append names, names, e⟩) ∧
      ((∃ found, discover tree path = .ok found ∧ ∀ file ∈ found, ¬ Meant base name file.names) ↔
        ∀ other ∈ sources (Ignore.skips (patternsOf (before ++ after))) children,
          Meant base name other.1 → leadsInto base name other.1 = true) := by
  have hKeeps := hKept.keeps hFolder hName (before.map RuleLine.moved)
  have hAnchored :=
    anchors_globLibrary.discoverWith_nested_line hTidy hTree hLines hFolder hName hKeeps
  simp only [← discover_eq_discoverWith, ← skips_patternsOf, ← leadsInto_iff, Bool.decide_eq_true]
    at hAnchored
  exact ⟨(mem_ruleLines_iff hLines ⟨base, name.toList⟩).mp (by simp), hAnchored⟩

def package : List (String × Entry) :=
  [("pkg", .folder
    [(".gitignore", .file [71, 101, 110, 46, 115, 119, 105, 102, 116, 10]),
      ("Gen.swift", .file []), ("a", .folder [("Gen.swift", .file [])])])]

theorem ruleLines_package (path : Path) :
    ruleLines path package = .ok [⟨["pkg"], "Gen.swift".toList⟩] := by
  have hFiles : inOrder (patternFilesIn [] package) =
      [(["pkg", ".gitignore"], .file [71, 101, 110, 46, 115, 119, 105, 102, 116, 10])] := by
    simp [package, patternFilesIn, patternFilesAt, patternFile, inOrder]
  have hRead : Entry.textOf [71, 101, 110, 46, 115, 119, 105, 102, 116, 10] = .ok "Gen.swift\n" := by
    decide
  have hLines : Text.allLines "Gen.swift\n".toList = ["Gen.swift".toList] := by decide
  have hFile : linesOf path ["pkg", ".gitignore"]
      (.file [71, 101, 110, 46, 115, 119, 105, 102, 116, 10]) = .ok [⟨["pkg"], "Gen.swift".toList⟩] := by
    rw [linesOf, Entry.read, hRead]
    change Except.ok ((Text.allLines "Gen.swift\n".toList).map _) = _
    rw [hLines]
    rfl
  rw [ruleLines, hFiles]
  exact (bind_eq_ok_iff _ _ _).mpr ⟨_, (mapM_eq_ok_iff _ _ _).mpr (.cons hFile .nil), rfl⟩

theorem plainFolder_package : PlainFolder ["pkg"] :=
  ⟨by decide, by decide, by decide⟩

theorem plainLine_package : PlainLine "Gen.swift" where
  plain := by decide
  noComment := by decide
  positive := by decide
  unpadded c hLast := by
    have hEnd : "Gen.swift".toList.getLast? = some 't' := by decide
    rw [hEnd, Option.some_inj] at hLast
    rw [← hLast]
    decide

theorem keptBy_nil (base : List String) (name : String) : KeptBy [] base name :=
  fun _ _ => List.forall_mem_nil _

theorem nested_line_takes_children_package :
    (Entry.folder [("root", .folder package)]).Tidy ∧ PlainFolder ["pkg"] ∧ PlainLine "Gen.swift" ∧
      KeptBy (patternsOf []) ["pkg"] "Gen.swift" ∧
      discover (.folder [("root", .folder package)]) ⟨"", ["root"]⟩ =
        .ok (((sources (Ignore.skips (patternsOf [])) package).filter fun (names, _) =>
          !leadsInto ["pkg"] "Gen.swift" names).map fun (names, e) => ⟨⟨"", "root" :: names⟩, names, e⟩) := by
  have hTidy : (Entry.folder [("root", .folder package)]).Tidy := by decide
  have hLines : ruleLines ⟨"", ["root"]⟩ package = .ok ([] ++ ⟨["pkg"], "Gen.swift".toList⟩ :: []) :=
    ruleLines_package _
  have hAll := nested_line_takes_children hTidy rfl hLines plainFolder_package plainLine_package
    (keptBy_nil _ _)
  exact ⟨hTidy, plainFolder_package, plainLine_package, keptBy_nil _ _, hAll.right.left⟩

/-- The line stands in `pkg`, and the file of its name in `pkg/a` is found all the same. -/
theorem nested_line_leaves_deeper :
    ruleLines ⟨"", ["root"]⟩ package = .ok [⟨["pkg"], "Gen.swift".toList⟩] ∧
      PlainLine "Gen.swift" ∧ Meant ["pkg"] "Gen.swift" ["pkg", "a", "Gen.swift"] ∧
      ∃ found, discover (.folder [("root", .folder package)]) ⟨"", ["root"]⟩ = .ok found ∧
        ["pkg", "a", "Gen.swift"] ∈ found.map Found.names := by
  have hTidy : (Entry.folder package).Tidy := by decide
  have hSkips : Ignore.skips (patternsOf [⟨["pkg"], "Gen.swift".toList⟩]) =
      globLibrary.skips ([] ++ placeLine ["pkg"] "Gen.swift" :: []) := by
    rw [skips_patternsOf, List.map_singleton, moved_of_plain plainFolder_package plainLine_package]
    rfl
  have hUnignored : Unignored (globLibrary.skips ([] ++ [])) ["pkg", "a", "Gen.swift"] := by
    refine ⟨rfl, fun front hNonempty hFront hProper => ⟨rfl, ?_⟩⟩
    have hInits : front = ["pkg"] ∨ front = ["pkg", "a"] := by
      simpa [hNonempty, hProper] using (List.mem_inits _ _).mpr hFront
    rcases hInits with rfl | rfl <;> decide
  have hSource : (["pkg", "a", "Gen.swift"], Entry.file []) ∈
      sources (Ignore.skips (patternsOf [⟨["pkg"], "Gen.swift".toList⟩])) package := by
    have hKept : KeptBy (patternsOf []) ["pkg"] "Gen.swift" := keptBy_nil _ _
    have hKeeps : globLibrary.Keeps ReadsAs [] [] ["pkg"] "Gen.swift" :=
      hKept.keeps plainFolder_package plainLine_package []
    rw [hSkips,
      anchors_globLibrary.sources_append_cons plainFolder_package plainLine_package hKeeps hTidy]
    refine List.mem_filter.mpr ⟨(mem_sources_iff _ _ _).mpr ⟨?_, by decide, hUnignored⟩, by decide⟩
    exact .inside (.head _) (.inside (.tail _ (.tail _ (.head _))) (.here (.head _)))
  refine ⟨ruleLines_package _, plainLine_package, ⟨["a"], [], rfl⟩, _,
    discover_of_folder rfl (ruleLines_package _), ?_⟩
  exact List.mem_map.mpr ⟨_, List.mem_map_of_mem hSource, rfl⟩

end SwiftDerive.Discovery
