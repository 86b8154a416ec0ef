import Mathlib.Data.List.DropRight
import SwiftDerive.Proofs.Lists
import SwiftDerive.Text.Lines

/-! # Laws of lines and indentation

Cutting a text into lines and joining them undo each other. The margin of lines is the beginning
that the indentations of all lines have in common; it grows with what is put in front of them, and
none of it is left when lines are dedented.
-/

namespace SwiftDerive.Text

set_option autoImplicit false

/-! ## Lines of a text -/

theorem newline_notMem_of_mem_lines {cs : List Char} {line : Line} (h : line ∈ lines cs) :
    '\n' ∉ line :=
  fun hMem => by simpa using (mem_of_mem_splitOnP h hMem).2

theorem mem_of_mem_lines {cs : List Char} {line : Line} (h : line ∈ lines cs) {c : Char}
    (hMem : c ∈ line) : c ∈ cs :=
  (mem_of_mem_splitOnP h hMem).1

theorem lines_ne_nil (cs : List Char) : lines cs ≠ [] :=
  List.splitOn_ne_nil _ _

theorem joinLines_lines (cs : List Char) : joinLines (lines cs) = cs :=
  List.intercalate_splitOn _

theorem lines_joinLines {ls : List Line} (hNe : ls ≠ []) (hLines : ∀ line ∈ ls, '\n' ∉ line) :
    lines (joinLines ls) = ls :=
  List.splitOn_intercalate _ hLines hNe

theorem joinLines_cons {line : Line} {ls : List Line} (hNe : ls ≠ []) :
    joinLines (line :: ls) = line ++ '\n' :: joinLines ls := by
  rw [joinLines, List.intercalate_cons_of_ne_nil hNe, List.append_assoc]
  rfl

theorem dropEndWhile_eq_rdropWhile {α : Type} (p : α → Bool) (items : List α) :
    dropEndWhile p items = items.rdropWhile p := rfl

/-! ## Joined lines -/

@[simp] theorem joinLines_singleton (line : Line) : joinLines [line] = line :=
  List.intercalate_singleton

theorem joinLines_append_cons (front line : Line) (ls : List Line) :
    joinLines ((front ++ line) :: ls) = front ++ joinLines (line :: ls) := by
  cases ls with
  | nil => simp
  | cons next ls =>
    rw [joinLines_cons (List.cons_ne_nil _ _), joinLines_cons (List.cons_ne_nil _ _),
      List.append_assoc]

theorem joinLines_cons_cons (c : Char) (line : Line) (ls : List Line) :
    joinLines ((c :: line) :: ls) = c :: joinLines (line :: ls) :=
  joinLines_append_cons [c] line ls

theorem joinLines_concat {ls : List Line} (hNe : ls ≠ []) (line : Line) :
    joinLines (ls ++ [line]) = joinLines ls ++ '\n' :: line := by
  induction ls with
  | nil => exact absurd rfl hNe
  | cons first ls ih =>
    by_cases hEmpty : ls = []
    · simp [hEmpty, joinLines_cons]
    · rw [List.cons_append, joinLines_cons (by simp), joinLines_cons hEmpty, ih hEmpty,
        List.append_assoc, List.cons_append]

theorem dropWhile_joinLines {ls : List Line} (hUnbroken : ∀ line ∈ ls, '\n' ∉ line) :
    (joinLines ls).dropWhile (· == '\n') = joinLines (ls.dropWhile List.isEmpty) := by
  induction ls with
  | nil => rfl
  | cons line ls ih =>
    obtain ⟨hLine, hRest⟩ := List.forall_mem_cons.mp hUnbroken
    cases line with
    | nil =>
      rw [List.dropWhile_cons_of_pos rfl, ← ih hRest]
      by_cases hEmpty : ls = []
      · rw [hEmpty]
        rfl
      · rw [joinLines_cons hEmpty]
        rfl
    | cons c line =>
      have hOther : (c == '\n') = false :=
        beq_false_of_ne fun hSame => hLine (hSame ▸ List.mem_cons_self)
      rw [List.dropWhile_cons_of_neg (by simp), joinLines_cons_cons,
        List.dropWhile_cons_of_neg (by simp [hOther])]

theorem exists_joinLines_concat (front : List Line) (final : Line) :
    ∃ before, joinLines (front ++ [final]) = before ++ final := by
  by_cases hEmpty : front = []
  · exact ⟨[], by simp [hEmpty]⟩
  · exact ⟨joinLines front ++ ['\n'], by simp [joinLines_concat hEmpty]⟩

theorem trimNewlines_joinLines {front : List Line} {final : Line}
    (hUnbroken : ∀ line ∈ front ++ [final], '\n' ∉ line) (hNe : final ≠ []) :
    trimNewlines (joinLines (front ++ [final])) =
      joinLines ((front ++ [final]).dropWhile List.isEmpty) := by
  obtain ⟨kept, hKept⟩ := exists_dropWhile_concat (p := List.isEmpty) (by simpa using hNe) front
  obtain ⟨before, hBefore⟩ := exists_joinLines_concat kept final
  obtain ⟨init, c, rfl⟩ := List.eq_nil_or_concat final |>.resolve_left hNe
  have hOther : ¬ (c == '\n') = true := by
    intro hSame
    apply hUnbroken _ (List.mem_append_right _ List.mem_cons_self)
    simp [eq_of_beq hSame]
  rw [trimNewlines, dropWhile_joinLines hUnbroken, hKept, hBefore, List.concat_eq_append,
    ← List.append_assoc, dropEndWhile_eq_rdropWhile]
  exact List.rdropWhile_concat_neg (· == '\n') _ c hOther

/-! ## Common beginnings -/

theorem commonStart_append (front as bs : Line) :
    commonStart (front ++ as) (front ++ bs) = front ++ commonStart as bs := by
  induction front with
  | nil => rfl
  | cons c front ih => simp [commonStart, ih]

theorem commonStart_isPrefix (as bs : Line) :
    commonStart as bs <+: as ∧ commonStart as bs <+: bs := by
  induction as generalizing bs with
  | nil => simp [commonStart]
  | cons a as ih =>
    cases bs with
    | nil => simp [commonStart]
    | cons b bs =>
      rw [commonStart]
      split
      · next hSame =>
        subst hSame
        exact ⟨List.prefix_cons_inj a |>.mpr (ih bs).1, List.prefix_cons_inj a |>.mpr (ih bs).2⟩
      · exact ⟨List.nil_prefix, List.nil_prefix⟩

theorem foldl_commonStart_append (front first : Line) (rest : List Line) :
    (rest.map (front ++ ·)).foldl commonStart (front ++ first) =
      front ++ rest.foldl commonStart first := by
  induction rest generalizing first with
  | nil => rfl
  | cons line rest ih => rw [List.map_cons, List.foldl_cons, commonStart_append, ih, List.foldl_cons]

theorem foldl_commonStart_isPrefix (first : Line) (rest : List Line) :
    ∀ line ∈ first :: rest, rest.foldl commonStart first <+: line := by
  induction rest generalizing first with
  | nil => simp
  | cons next rest ih =>
    have hStep := ih (commonStart first next)
    have hHead := hStep _ List.mem_cons_self
    intro line hMem
    rw [List.foldl_cons]
    rcases List.mem_cons.mp hMem with rfl | hMem
    · exact hHead.trans (commonStart_isPrefix _ next).1
    · rcases List.mem_cons.mp hMem with rfl | hMem
      · exact hHead.trans (commonStart_isPrefix first _).2
      · exact hStep line (List.mem_cons_of_mem _ hMem)

theorem foldl_commonStart_nil (rest : List Line) : rest.foldl commonStart [] = [] := by
  induction rest with
  | nil => rfl
  | cons line rest ih => exact ih

/-! ## Margins -/

def shiftLine (front line : Line) : Line :=
  if line.isEmpty then [] else front ++ line

@[simp] theorem shiftLine_nil (front : Line) : shiftLine front [] = [] := rfl

theorem shiftLine_of_ne_nil {line : Line} (hNe : line ≠ []) (front : Line) :
    shiftLine front line = front ++ line := by
  rw [shiftLine, if_neg (by simpa using hNe)]

theorem drop_shiftLine (front line : Line) : (shiftLine front line).drop front.length = line := by
  by_cases hEmpty : line = []
  · simp [hEmpty]
  · rw [shiftLine_of_ne_nil hEmpty, List.drop_left]

theorem isIndent_of_mem_indentOf {line : Line} {c : Char} (h : c ∈ indentOf line) :
    isIndent c = true :=
  List.mem_takeWhile_imp h

theorem indentOf_append {front : Line} (hFront : ∀ c ∈ front, isIndent c = true) (line : Line) :
    indentOf (front ++ line) = front ++ indentOf line :=
  List.takeWhile_append_of_pos hFront

theorem margin_isPrefix {ls : List Line} {line : Line} (hMem : line ∈ ls) (hNe : line ≠ []) :
    margin ls <+: indentOf line := by
  have hIndent : indentOf line ∈ (ls.filter fun line => !line.isEmpty).map indentOf :=
    List.mem_map.mpr ⟨line, List.mem_filter.mpr ⟨hMem, by simpa using hNe⟩, rfl⟩
  rw [margin]
  cases hIndents : (ls.filter fun line => !line.isEmpty).map indentOf with
  | nil => simp [hIndents] at hIndent
  | cons first rest => exact foldl_commonStart_isPrefix first rest _ (hIndents ▸ hIndent)

theorem isIndent_of_mem_margin {ls : List Line} {c : Char} (h : c ∈ margin ls) :
    isIndent c = true := by
  rw [margin] at h
  cases hIndents : (ls.filter fun line => !line.isEmpty).map indentOf with
  | nil => simp [hIndents] at h
  | cons first rest =>
    rw [hIndents] at h
    obtain ⟨line, _, rfl⟩ := List.mem_map.mp (hIndents ▸ List.mem_cons_self)
    exact isIndent_of_mem_indentOf ((foldl_commonStart_isPrefix _ rest _ List.mem_cons_self).subset h)

theorem filter_map_shiftLine (front : Line) (ls : List Line) :
    ((ls.map (shiftLine front)).filter fun line => !line.isEmpty) =
      (ls.filter fun line => !line.isEmpty).map (front ++ ·) := by
  induction ls with
  | nil => rfl
  | cons line ls ih => cases line <;> simp [shiftLine, ih]

theorem margin_map_shiftLine {front : Line} (hFront : ∀ c ∈ front, isIndent c = true)
    {ls : List Line} (hSome : ∃ line ∈ ls, line ≠ []) :
    margin (ls.map (shiftLine front)) = front ++ margin ls := by
  rw [margin, filter_map_shiftLine, margin, List.map_map]
  cases hKept : ls.filter fun line => !line.isEmpty with
  | nil =>
    obtain ⟨line, hMem, hNe⟩ := hSome
    exact absurd (List.filter_eq_nil_iff.mp hKept line hMem) (by simpa using hNe)
  | cons first rest =>
    have hIndents (line : Line) : (indentOf ∘ (front ++ ·)) line = front ++ indentOf line :=
      indentOf_append hFront line
    simp only [List.map_cons, List.map_congr_left fun line _ => hIndents line]
    rw [← foldl_commonStart_append, List.map_map]
    rfl

theorem margin_dropWhile_isEmpty (ls : List Line) :
    margin (ls.dropWhile List.isEmpty) = margin ls := by
  induction ls with
  | nil => rfl
  | cons line ls ih =>
    cases line with
    | nil => exact ih
    | cons c line => rfl

theorem margin_cons_of_indentOf {line : Line} (hNe : line ≠ []) (hIndent : indentOf line = [])
    (ls : List Line) : margin (line :: ls) = [] := by
  rw [margin, List.filter_cons_of_pos (by simpa using hNe), List.map_cons, hIndent]
  exact foldl_commonStart_nil _

/-! ## Dedenting -/

def clearLine (line : Line) : Line :=
  if line.all isIndent then [] else line

theorem dedent_eq (ls : List Line) :
    dedent ls =
      (ls.map clearLine).map fun line => line.drop (margin (ls.map clearLine)).length := rfl

theorem shiftLine_drop_margin {ls : List Line} {line : Line} (hMem : line ∈ ls) :
    shiftLine (margin (ls.map clearLine)) ((clearLine line).drop (margin (ls.map clearLine)).length) =
      clearLine line := by
  have hCleared : clearLine line ∈ ls.map clearLine := List.mem_map.mpr ⟨line, hMem, rfl⟩
  by_cases hEmpty : clearLine line = []
  · rw [hEmpty, List.drop_nil, shiftLine_nil]
  · obtain ⟨behind, hBehind⟩ :=
      (margin_isPrefix hCleared hEmpty).trans (List.takeWhile_prefix _)
    have hNe : behind ≠ [] := by
      -- A line that is all margin would have been cleared.
      rintro rfl
      rw [List.append_nil] at hBehind
      rw [clearLine] at hBehind hEmpty
      split at hEmpty
      · exact hEmpty rfl
      · next hSome =>
        rw [if_neg hSome] at hBehind
        exact hSome (List.all_eq_true.mpr fun c hc => isIndent_of_mem_margin (hBehind ▸ hc))
    rw [← hBehind, List.drop_left, shiftLine_of_ne_nil hNe]

theorem map_shiftLine_dedent (ls : List Line) :
    (dedent ls).map (shiftLine (margin (ls.map clearLine))) = ls.map clearLine := by
  rw [dedent_eq, List.map_map, List.map_map]
  exact List.map_congr_left fun line hMem => shiftLine_drop_margin hMem

theorem exists_of_mem_dedent {ls : List Line} {line : Line} (hMem : line ∈ dedent ls)
    (hNe : line ≠ []) :
    margin (ls.map clearLine) ++ line ∈ ls ∧
      (margin (ls.map clearLine) ++ line).all isIndent = false := by
  have hShifted := List.mem_map_of_mem (f := shiftLine (margin (ls.map clearLine))) hMem
  rw [map_shiftLine_dedent, shiftLine_of_ne_nil hNe] at hShifted
  obtain ⟨original, hOriginal, hCleared⟩ := List.mem_map.mp hShifted
  rw [clearLine] at hCleared
  split at hCleared
  · exact absurd (List.append_eq_nil_iff.mp hCleared.symm).2 hNe
  · next hSome =>
    rw [← hCleared]
    exact ⟨hOriginal, by simpa using hSome⟩

theorem margin_dedent {ls : List Line} (hSome : ∃ line ∈ dedent ls, line ≠ []) :
    margin (dedent ls) = [] := by
  have hFront : ∀ c ∈ margin (ls.map clearLine), isIndent c = true :=
    fun _ hMem => isIndent_of_mem_margin hMem
  have hMargin := margin_map_shiftLine hFront hSome
  rw [map_shiftLine_dedent] at hMargin
  exact List.append_right_eq_self.mp hMargin.symm

/-- Lines that have nothing in common come back when they are indented and dedented. -/
theorem dedent_map_shiftLine {front : Line} (hFront : ∀ c ∈ front, isIndent c = true)
    {ls : List Line} (hSome : ∃ line ∈ ls, line ≠ []) (hFlush : margin ls = [])
    (hClear : ∀ line ∈ ls, line.all isIndent = true → line = []) :
    dedent (ls.map (shiftLine front)) = ls := by
  have hKept : (ls.map (shiftLine front)).map clearLine = ls.map (shiftLine front) := by
    rw [List.map_map]
    refine List.map_congr_left fun line hMem => ?_
    by_cases hEmpty : line = []
    · rw [hEmpty]
      rfl
    · rw [Function.comp_apply, shiftLine_of_ne_nil hEmpty, clearLine, if_neg]
      intro hAll
      rw [List.all_append, Bool.and_eq_true] at hAll
      exact hEmpty (hClear line hMem hAll.2)
  rw [dedent_eq, hKept, margin_map_shiftLine hFront hSome, hFlush, List.append_nil, List.map_map]
  simp only [Function.comp_def, drop_shiftLine, List.map_id']

/-! ## Text between braces -/

theorem normalizeBody_of_lines {cs : List Char} {opening : Line} {rest : List Line}
    (hLines : lines cs = opening :: rest) :
    normalizeBody cs =
      let body := trimNewlines (joinLines (dedent (dropEndWhile isBlankText rest)))
      if (trimChars opening).isEmpty then body
      else if body.isEmpty then trimChars opening
      else trimChars opening ++ '\n' :: body := by
  rw [normalizeBody, hLines]

end SwiftDerive.Text
