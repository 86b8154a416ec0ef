import SwiftDerive.Proofs.Discovery.Walk
import SwiftDerive.Proofs.Ignore.Literal

/-! # Anchored lines

Discovery leaves it to a library for files of patterns which paths are ignored. A plain name in a file
of patterns of a folder below the walked one is moved to the walked one by putting the folder in front
of it. The slash that comes with it anchors the line there, whatever the library, if only it anchors
such lines: the line takes out what stands under the name in the folder itself and below that, and
nothing deeper.
-/

namespace SwiftDerive.Discovery

set_option autoImplicit false

open Entry (Stands)

/-! ## Discovery with a library -/

abbrev Library := (lines : List Text.Line) → (path : List Char) → Bool

/-- A folder is asked for twice, the second time with a slash behind its path. -/
def Library.skips (library : Library) (lines : List Text.Line) : Matcher := fun path isFolder =>
  library lines path.toList || (isFolder && library lines (path.toList ++ ['/']))

def RuleLine.moved (l : RuleLine) : Text.Line :=
  Ignore.movedLine (Path.joined l.folder).toList l.text

def discoverWith (library : Library) (tree : Entry) (path : Path) : Except Fault (List Found) :=
  match tree.find? path with
  | some (.folder children) =>
    match ruleLines path children with
    | .error fault => .error (.patternFile fault)
    | .ok lines =>
      .ok ((sources (library.skips (lines.map RuleLine.moved)) children).map fun (names, e) =>
        ⟨path.append names, names, e⟩)
  | _ => (requireFile tree path).map fun file => [file]

def globLibrary : Library := fun lines => Ignore.ignores (lines.filterMap Ignore.pattern?)

theorem patternsOf_eq_filterMap (lines : List RuleLine) :
    patternsOf lines = (lines.map RuleLine.moved).filterMap Ignore.pattern? :=
  (List.filterMap_map ..).symm

theorem skips_patternsOf (lines : List RuleLine) :
    Ignore.skips (patternsOf lines) = globLibrary.skips (lines.map RuleLine.moved) := by
  rw [patternsOf_eq_filterMap]
  rfl

theorem discover_eq_discoverWith (tree : Entry) (path : Path) :
    discover tree path = discoverWith globLibrary tree path := by
  rw [discover, discoverWith]
  cases tree.find? path with
  | none => rfl
  | some e =>
    cases e with
    | file bytes => rfl
    | locked reason => rfl
    | folder children =>
      cases hLines : ruleLines path children with
      | error fault => simp only [hLines]
      | ok lines => simp only [hLines, skips_patternsOf]

/-! ## Plain lines -/

/-- A folder below the walked one whose names stand for themselves in a pattern, with no mark in
front. -/
structure PlainFolder (base : List String) : Prop where
  nested : base ≠ []
  plain : ∀ name ∈ base, Ignore.isPlainName name = true
  unmarked : (Path.joined base).toList.head? ≠ some '#' ∧ (Path.joined base).toList.head? ≠ some '!'

structure PlainLine (name : String) : Prop where
  plain : Ignore.isPlainName name = true
  noComment : Ignore.isComment name.toList = false
  positive : name.toList.head? ≠ some '!'
  unpadded : ∀ c, name.toList.getLast? = some c → Text.isBlank c = false

/-- The path to an entry of a folder, which is also the line that a plain name in it becomes. -/
def placeLine (base : List String) (name : String) : Text.Line :=
  (Path.joined (base ++ [name])).toList

theorem toList_joined (names : List String) :
    (Path.joined names).toList = ['/'].intercalate (names.map String.toList) :=
  String.toList_intercalate

theorem placeLine_eq {base : List String} (hNested : base ≠ []) (name : String) :
    placeLine base name = (Path.joined base).toList ++ '/' :: name.toList := by
  obtain ⟨first, rest, rfl⟩ := List.exists_cons_of_ne_nil hNested
  simp [placeLine, toList_joined, Ignore.intercalate_cons_eq_flatMap]

section PlainLine

variable {base : List String} {name : String}

theorem PlainFolder.joined_ne_nil (hFolder : PlainFolder base) : (Path.joined base).toList ≠ [] := by
  obtain ⟨first, rest, rfl⟩ := List.exists_cons_of_ne_nil hFolder.nested
  have hFirst := Ignore.plainSegment_of_isPlainName (hFolder.plain first List.mem_cons_self)
  rw [toList_joined, List.map_cons, Ignore.intercalate_cons_eq_flatMap]
  exact List.append_ne_nil_of_left_ne_nil hFirst.nonempty _

theorem movedPattern_of_plain (hName : Ignore.isPlainName name = true) (above : List Char) :
    Ignore.movedPattern above name.toList = above ++ '/' :: name.toList := by
  have hPlain := Ignore.plainSegment_of_isPlainName hName
  have hNoSlash : ∀ rest, name.toList ≠ '/' :: rest := fun rest h =>
    hPlain.whole (h ▸ List.mem_cons_self)
  rw [Ignore.movedPattern]
  · exact hNoSlash []
  · exact hNoSlash
  · exact hPlain.nonempty

theorem moved_of_plain (hFolder : PlainFolder base) (hName : PlainLine name) :
    RuleLine.moved ⟨base, name.toList⟩ = placeLine base name := by
  have hPlain := Ignore.plainSegment_of_isPlainName hName.plain
  have hEscape : ∀ rest, name.toList ≠ '\\' :: rest := fun rest h =>
    absurd (hPlain.literal '\\' (h ▸ List.mem_cons_self)) (by decide)
  have hPositive : ∀ rest, name.toList ≠ '!' :: rest := fun rest h =>
    hName.positive (h ▸ List.head?_cons)
  have hMoved : ((Path.joined base).toList.isEmpty || name.toList.isEmpty ||
      Ignore.isComment name.toList) = false := by
    simp [hFolder.joined_ne_nil, hPlain.nonempty, hName.noComment]
  rw [RuleLine.moved, Ignore.movedLine, hMoved, if_neg Bool.false_ne_true,
    placeLine_eq hFolder.nested, movedPattern_of_plain hName.plain]
  · exact fun rest => hEscape _
  · exact fun rest => hEscape _
  · exact hPositive

end PlainLine

/-! ## What an anchored line takes out -/

def LeadsTo (reads : String → String → Prop) (base : List String) (name : String)
    (names : List String) : Prop :=
  ∃ last, reads name last ∧ base ++ [last] <+: names

theorem LeadsTo.mono {reads : String → String → Prop} {base : List String} {name : String}
    {front names : List String} (h : LeadsTo reads base name front) (hFront : front <+: names) :
    LeadsTo reads base name names := by
  obtain ⟨last, hLast, hPrefix⟩ := h
  exact ⟨last, hLast, hPrefix.trans hFront⟩

/-- A library anchors at the walked folder a line that is a path with a slash inside: coming last it
ignores its place, and it has no say on a path that does not lead there. A path to `last` is taken for
one to `name` if `reads name last`, which need not be the same name. -/
structure Library.Anchors (library : Library) (reads : String → String → Prop) : Prop where
  place : ∀ {base name last}, PlainFolder base → PlainLine name → reads name last → ∀ before,
    library (before ++ [placeLine base name]) (placeLine base last) = true
  elsewhere : ∀ {base name names}, PlainFolder base → PlainLine name →
    (∀ n ∈ names, '/' ∉ n.toList) → names ≠ [] → ¬ LeadsTo reads base name names →
    ∀ {mark : List Char}, mark = [] ∨ mark = ['/'] → ∀ before after,
      library (before ++ placeLine base name :: after) ((Path.joined names).toList ++ mark) =
        library (before ++ after) ((Path.joined names).toList ++ mark)

/-- No later line overrides what the line says of its place. -/
def Library.Keeps (library : Library) (reads : String → String → Prop) (before after : List Text.Line)
    (base : List String) (name : String) : Prop :=
  ∀ last, reads name last → library (before ++ [placeLine base name]) (placeLine base last) = true →
    library (before ++ placeLine base name :: after) (placeLine base last) = true

namespace Library.Anchors

variable {library : Library} {reads : String → String → Prop} {before after : List Text.Line}
  {base : List String} {name : String}

theorem skips_of_not_leadsTo (hLibrary : library.Anchors reads) (hFolder : PlainFolder base)
    (hName : PlainLine name) {names : List String} (hNames : ∀ n ∈ names, '/' ∉ n.toList)
    (hNonempty : names ≠ []) (hOutside : ¬ LeadsTo reads base name names) (isFolder : Bool) :
    library.skips (before ++ placeLine base name :: after) (Path.joined names) isFolder =
      library.skips (before ++ after) (Path.joined names) isFolder := by
  have hSame {mark : List Char} (hMark : mark = [] ∨ mark = ['/']) :=
    hLibrary.elsewhere hFolder hName hNames hNonempty hOutside hMark before after
  have hPath := hSame (.inl rfl)
  rw [List.append_nil] at hPath
  rw [Library.skips, Library.skips, hPath, hSame (.inr rfl)]

theorem skips_of_reads (hLibrary : library.Anchors reads) (hFolder : PlainFolder base)
    (hName : PlainLine name) (hKept : library.Keeps reads before after base name) {last : String}
    (hLast : reads name last) (isFolder : Bool) :
    library.skips (before ++ placeLine base name :: after) (Path.joined (base ++ [last])) isFolder =
      true := by
  have hPlace := hKept last hLast (hLibrary.place hFolder hName hLast before)
  rw [placeLine.eq_def base last] at hPlace
  rw [Library.skips, hPlace, Bool.true_or]

theorem unignored_iff (hLibrary : library.Anchors reads) (hFolder : PlainFolder base)
    (hName : PlainLine name) (hKept : library.Keeps reads before after base name)
    {names : List String} (hNames : ∀ n ∈ names, '/' ∉ n.toList) (hNonempty : names ≠ []) :
    Unignored (library.skips (before ++ placeLine base name :: after)) names ↔
      Unignored (library.skips (before ++ after)) names ∧ ¬ LeadsTo reads base name names := by
  have hSame (hOutside : ¬ LeadsTo reads base name names) (front : List String)
      (hFront : front <+: names) (hFrontNonempty : front ≠ []) (isFolder : Bool) :
      library.skips (before ++ placeLine base name :: after) (Path.joined front) isFolder =
        library.skips (before ++ after) (Path.joined front) isFolder :=
    hLibrary.skips_of_not_leadsTo hFolder hName (fun n hMem => hNames n (hFront.subset hMem))
      hFrontNonempty (fun hInto => hOutside (hInto.mono hFront)) isFolder
  constructor
  · intro h
    have hOutside : ¬ LeadsTo reads base name names := by
      rintro ⟨last, hLast, hPrefix⟩
      have hPlace := hLibrary.skips_of_reads hFolder hName hKept hLast
      by_cases hAll : base ++ [last] = names
      · have hItself := h.itself
        rw [← hAll, hPlace] at hItself
        cases hItself
      · have hFront := (h.folders _ (by simp) hPrefix hAll).left
        rw [hPlace] at hFront
        cases hFront
    refine ⟨⟨?_, fun front hFrontNonempty hFront hProper => ?_⟩, hOutside⟩
    · rw [← hSame hOutside names List.prefix_rfl hNonempty]
      exact h.itself
    · rw [← hSame hOutside front hFront hFrontNonempty]
      exact h.folders front hFrontNonempty hFront hProper
  · rintro ⟨h, hOutside⟩
    refine ⟨?_, fun front hFrontNonempty hFront hProper => ?_⟩
    · rw [hSame hOutside names List.prefix_rfl hNonempty]
      exact h.itself
    · rw [hSame hOutside front hFront hFrontNonempty]
      exact h.folders front hFrontNonempty hFront hProper

theorem sources_append_cons (hLibrary : library.Anchors reads) (hFolder : PlainFolder base)
    (hName : PlainLine name) (hKept : library.Keeps reads before after base name)
    {children : List (String × Entry)} (hTidy : (Entry.folder children).Tidy)
    [DecidablePred (LeadsTo reads base name)] :
    sources (library.skips (before ++ placeLine base name :: after)) children =
      (sources (library.skips (before ++ after)) children).filter fun (names, _) =>
        !decide (LeadsTo reads base name names) := by
  apply eq_of_pairwise_fst (pairwise_sources hTidy)
  · exact (pairwise_sources hTidy).sublist (List.filter_sublist.map Prod.fst)
  · rintro ⟨names, e⟩
    rw [List.mem_filter, mem_sources_iff, mem_sources_iff, Bool.not_eq_true', decide_eq_false_iff_not,
      and_assoc, and_assoc]
    refine and_congr_right fun hStands => and_congr_right fun _ => ?_
    exact hLibrary.unignored_iff hFolder hName hKept (fun n hMem =>
      ((isEntryName_iff n).mp (hStands.isEntryName hTidy n hMem)).right.right.right) hStands.ne_nil

end Library.Anchors

/-- A path leads to an entry called `name` below a folder, or into one, at any depth. -/
def Meant (base : List String) (name : String) (names : List String) : Prop :=
  ∃ between rest, names = base ++ between ++ name :: rest

/-- Whatever the library, if it anchors lines with a slash inside: a plain name in a file of patterns
below the walked folder takes out what stands under this name in the folder of the file and below
that, and nothing else. -/
theorem Library.Anchors.discoverWith_nested_line {library : Library} {reads : String → String → Prop}
    (hLibrary : library.Anchors reads) {tree : Entry} {path : Path} {children : List (String × Entry)}
    (hTidy : tree.Tidy) (hTree : tree.find? path = some (.folder children))
    {before after : List RuleLine} {base : List String} {name : String}
    (hLines : ruleLines path children = .ok (before ++ ⟨base, name.toList⟩ :: after))
    (hFolder : PlainFolder base) (hName : PlainLine name)
    (hKept : library.Keeps reads (before.map RuleLine.moved) (after.map RuleLine.moved) base name)
    [DecidablePred (LeadsTo reads base name)] :
    discoverWith library tree path =
        .ok (((sources (library.skips ((before ++ after).map RuleLine.moved)) children).filter
          fun (names, _) => !decide (LeadsTo reads base name names)).map fun (names, e) =>
            ⟨path.append names, names, e⟩) ∧
      ((∃ found, discoverWith library tree path = .ok found ∧
          ∀ file ∈ found, ¬ Meant base name file.names) ↔
        ∀ other ∈ sources (library.skips ((before ++ after).map RuleLine.moved)) children,
          Meant base name other.1 → LeadsTo reads base name other.1) := by
  have hFound : discoverWith library tree path =
      .ok (((sources (library.skips ((before ++ after).map RuleLine.moved)) children).filter
        fun (names, _) => !decide (LeadsTo reads base name names)).map fun (names, e) =>
          ⟨path.append names, names, e⟩) := by
    simp only [discoverWith, hTree, hLines]
    rw [List.map_append, List.map_cons, moved_of_plain hFolder hName,
      hLibrary.sources_append_cons hFolder hName hKept (hTidy.find? hTree), ← List.map_append]
  refine ⟨hFound, ?_⟩
  rw [hFound]
  constructor
  · rintro ⟨_, hSame, hNone⟩ ⟨names, e⟩ hOther hMeant
    cases hSame
    by_contra hOutside
    refine hNone _ (List.mem_map_of_mem (List.mem_filter.mpr ⟨hOther, ?_⟩)) hMeant
    simpa using hOutside
  · intro hAll
    refine ⟨_, rfl, List.forall_mem_map.mpr fun ⟨names, e⟩ hLeft hMeant => ?_⟩
    obtain ⟨hOther, hOutside⟩ := List.mem_filter.mp hLeft
    simp [hAll _ hOther hMeant] at hOutside

end SwiftDerive.Discovery
