import SwiftDerive.Proofs.Text.Words

/-! # Settled statement text

Statement text has a settled form: blank lines are empty and none stands at an end, and the lines have
no indentation in common. Reading the text between two braces settles it, and settled text comes
back when it is indented and read again.
-/

namespace SwiftDerive.Text

set_option autoImplicit false

def PlainBlanks (cs : List Char) : Prop :=
  ∀ c ∈ cs, isBlank c = true → c = ' ' ∨ c = '\t' ∨ c = '\n'

/-- Lines that keep their form when they are read as statement text. -/
structure Settled (ls : List Line) : Prop where
  unbroken : ∀ line ∈ ls, '\n' ∉ line
  blank_empty : ∀ line ∈ ls, isBlankText line = true → line = []
  head : ∃ first rest, ls = first :: rest ∧ first ≠ []
  last : ∃ front final, ls = front ++ [final] ∧ final ≠ []
  flush : margin ls = []

/-! ## Settled text comes back -/

theorem Settled.some {ls : List Line} (h : Settled ls) : ∃ line ∈ ls, line ≠ [] := by
  obtain ⟨first, rest, rfl, hNe⟩ := h.head
  exact ⟨first, List.mem_cons_self, hNe⟩

theorem Settled.blank_eq_false {ls : List Line} (h : Settled ls) {line : Line} (hMem : line ∈ ls)
    (hNe : line ≠ []) : isBlankText line = false :=
  Bool.eq_false_iff.mpr fun hBlank => hNe (h.blank_empty line hMem hBlank)

theorem Settled.dropWhile_isEmpty {ls : List Line} (h : Settled ls) :
    ls.dropWhile List.isEmpty = ls := by
  obtain ⟨first, rest, rfl, hNe⟩ := h.head
  exact List.dropWhile_cons_of_neg (by simpa using hNe)

theorem isBlankText_append (front line : Line) :
    isBlankText (front ++ line) = (isBlankText front && isBlankText line) :=
  List.all_append

theorem newline_notMem_of_indents {front : Line} (hFront : ∀ c ∈ front, isIndent c = true) :
    '\n' ∉ front :=
  fun hMem => absurd (hFront _ hMem) (by decide)

theorem normalizeBody_braced {ls : List Line} (hSome : ls ≠ [])
    (hUnbroken : ∀ line ∈ ls, '\n' ∉ line) {back : Line} (hBack : ∀ c ∈ back, isIndent c = true) :
    normalizeBody ('\n' :: (joinLines ls ++ '\n' :: back)) =
      trimNewlines (joinLines (dedent (dropEndWhile isBlankText ls))) := by
  have hText : '\n' :: (joinLines ls ++ '\n' :: back) = joinLines ([] :: (ls ++ [back])) := by
    rw [joinLines_cons (by simp), joinLines_concat hSome, List.nil_append]
  have hLines : ∀ line ∈ [] :: (ls ++ [back]), '\n' ∉ line := by
    intro line hMem
    rcases List.mem_cons.mp hMem with rfl | hMem
    · exact List.not_mem_nil
    · rcases List.mem_append.mp hMem with hMem | hMem
      · exact hUnbroken line hMem
      · rw [List.mem_singleton.mp hMem]
        exact newline_notMem_of_indents hBack
  have hBlank : isBlankText back = true :=
    List.all_eq_true.mpr fun c hMem => isBlank_of_isIndent (hBack c hMem)
  rw [hText, normalizeBody_of_lines (lines_joinLines (List.cons_ne_nil _ _) hLines),
    dropEndWhile_eq_rdropWhile, List.rdropWhile_concat_pos _ _ _ hBlank]
  rfl

/-- Settled lines are read again from any indentation. -/
theorem normalizeBody_map_shiftLine {ls : List Line} (h : Settled ls) {front back : Line}
    (hFront : ∀ c ∈ front, isIndent c = true) (hBack : ∀ c ∈ back, isIndent c = true) :
    normalizeBody ('\n' :: (joinLines (ls.map (shiftLine front)) ++ '\n' :: back)) =
      joinLines ls := by
  obtain ⟨before, final, hLast, hNe⟩ := h.last
  have hSome : ls.map (shiftLine front) ≠ [] := by
    rw [hLast]
    simp
  have hUnbroken : ∀ line ∈ ls.map (shiftLine front), '\n' ∉ line := by
    intro line hMem
    obtain ⟨original, hOriginal, rfl⟩ := List.mem_map.mp hMem
    rw [shiftLine]
    split
    · exact List.not_mem_nil
    · exact fun hIn => (List.mem_append.mp hIn).elim (newline_notMem_of_indents hFront)
        (h.unbroken _ hOriginal)
  have hRest : dropEndWhile isBlankText (ls.map (shiftLine front)) = ls.map (shiftLine front) := by
    have hFinal : ¬ isBlankText (front ++ final) = true := by
      have hMem : final ∈ ls := hLast ▸ List.mem_append_right _ List.mem_cons_self
      rw [isBlankText_append, h.blank_eq_false hMem hNe]
      simp
    rw [dropEndWhile_eq_rdropWhile, hLast, List.map_append, List.map_singleton,
      shiftLine_of_ne_nil hNe, List.rdropWhile_concat_neg _ _ _ hFinal]
  have hDedent : dedent (ls.map (shiftLine front)) = ls :=
    dedent_map_shiftLine hFront h.some h.flush fun line hMem hIndent =>
      h.blank_empty line hMem (List.all_eq_true.mpr fun c hIn =>
        isBlank_of_isIndent (List.all_eq_true.mp hIndent c hIn))
  rw [normalizeBody_braced hSome hUnbroken hBack, hRest, hDedent]
  conv_rhs => rw [← h.dropWhile_isEmpty]
  rw [hLast] at h ⊢
  exact trimNewlines_joinLines h.unbroken hNe

/-! ## Reading settles text -/

theorem isIndent_of_plain {cs : List Char} (hPlain : PlainBlanks cs) {line : Line}
    (hLine : line ∈ lines cs) (hBlank : isBlankText line = true) : line.all isIndent = true := by
  refine List.all_eq_true.mpr fun c hMem => ?_
  rcases hPlain c (mem_of_mem_lines hLine hMem) (List.all_eq_true.mp hBlank c hMem) with
    rfl | rfl | rfl
  · rfl
  · rfl
  · exact absurd hMem (newline_notMem_of_mem_lines hLine)

theorem newline_notMem_of_mem_dedent {ls : List Line} (hUnbroken : ∀ line ∈ ls, '\n' ∉ line)
    {line : Line} (hMem : line ∈ dedent ls) : '\n' ∉ line := by
  by_cases hEmpty : line = []
  · simp [hEmpty]
  · exact fun hIn =>
      hUnbroken _ (exists_of_mem_dedent hMem hEmpty).1 (List.mem_append_right _ hIn)

theorem eq_nil_of_mem_dedent {ls : List Line}
    (hIndent : ∀ line ∈ ls, isBlankText line = true → line.all isIndent = true)
    {line : Line} (hMem : line ∈ dedent ls) (hBlank : isBlankText line = true) : line = [] := by
  by_contra hNe
  obtain ⟨hOriginal, hSome⟩ := exists_of_mem_dedent hMem hNe
  have hMargin : isBlankText (margin (ls.map clearLine)) = true :=
    List.all_eq_true.mpr fun c hIn => isBlank_of_isIndent (isIndent_of_mem_margin hIn)
  have hAll := hIndent _ hOriginal (by rw [isBlankText_append, hMargin, hBlank, Bool.and_self])
  exact Bool.false_ne_true (hSome.symm.trans hAll)

theorem clearLine_ne_nil {line : Line} (hText : isBlankText line = false) : clearLine line ≠ [] := by
  rw [clearLine]
  split
  · next hIndent =>
    have hBlank : isBlankText line = true :=
      List.all_eq_true.mpr fun c hMem => isBlank_of_isIndent (List.all_eq_true.mp hIndent c hMem)
    exact absurd hBlank (by simp [hText])
  · rintro rfl
    cases hText

theorem exists_dedent_concat (front : List Line) {final : Line}
    (hText : isBlankText final = false) :
    ∃ kept last, dedent (front ++ [final]) = kept ++ [last] ∧ last ≠ [] := by
  have hMap := map_shiftLine_dedent (front ++ [final])
  generalize margin ((front ++ [final]).map clearLine) = shifted at hMap
  rcases List.eq_nil_or_concat (dedent (front ++ [final])) with hNone | ⟨kept, last, hDedent⟩
  · simp [hNone] at hMap
  · rw [List.concat_eq_append] at hDedent
    refine ⟨kept, last, hDedent, ?_⟩
    rintro rfl
    rw [hDedent, List.map_append, List.map_append] at hMap
    have hLast := (List.append_inj' hMap rfl).2
    exact clearLine_ne_nil hText (List.cons.inj hLast).1.symm

theorem settled_dropWhile_dedent {front : List Line} {final : Line}
    (hText : isBlankText final = false) (hUnbroken : ∀ line ∈ front ++ [final], '\n' ∉ line)
    (hIndent : ∀ line ∈ front ++ [final], isBlankText line = true → line.all isIndent = true) :
    Settled ((dedent (front ++ [final])).dropWhile List.isEmpty) := by
  obtain ⟨kept, last, hDedent, hNe⟩ := exists_dedent_concat front hText
  obtain ⟨start, hStart⟩ := exists_dropWhile_concat (p := List.isEmpty) (by simpa using hNe) kept
  have hMem {line : Line} (h : line ∈ (dedent (front ++ [final])).dropWhile List.isEmpty) :
      line ∈ dedent (front ++ [final]) := (List.dropWhile_sublist _).subset h
  rw [← hDedent] at hStart
  constructor
  · exact fun line h => newline_notMem_of_mem_dedent hUnbroken (hMem h)
  · exact fun line h => eq_nil_of_mem_dedent hIndent (hMem h)
  · have hSome : (dedent (front ++ [final])).dropWhile List.isEmpty ≠ [] := by simp [hStart]
    obtain ⟨first, rest, hFirst⟩ := List.exists_cons_of_ne_nil hSome
    have hHead := List.head_dropWhile_not List.isEmpty hSome
    simp only [hFirst, List.head_cons] at hHead
    exact ⟨first, rest, hFirst, by simpa using hHead⟩
  · exact ⟨start, last, hStart, hNe⟩
  · rw [margin_dropWhile_isEmpty]
    exact margin_dedent ⟨last, hDedent ▸ List.mem_append_right _ List.mem_cons_self, hNe⟩

theorem settles_below {rest : List Line} (hUnbroken : ∀ line ∈ rest, '\n' ∉ line)
    (hIndent : ∀ line ∈ rest, isBlankText line = true → line.all isIndent = true) :
    trimNewlines (joinLines (dedent (dropEndWhile isBlankText rest))) = [] ∨
      ∃ ls, Settled ls ∧
        trimNewlines (joinLines (dedent (dropEndWhile isBlankText rest))) = joinLines ls := by
  rw [dropEndWhile_eq_rdropWhile]
  have hMem {line : Line} (h : line ∈ rest.rdropWhile isBlankText) : line ∈ rest :=
    (List.rdropWhile_prefix isBlankText rest).subset h
  have hStop := List.rdropWhile_last_not isBlankText rest
  generalize rest.rdropWhile isBlankText = ls at hMem hStop
  rcases List.eq_nil_or_concat ls with rfl | ⟨front, final, rfl⟩
  · exact .inl rfl
  · have hText : isBlankText final = false := by simpa using hStop (by simp)
    rw [List.concat_eq_append] at hMem ⊢
    have hSettled := settled_dropWhile_dedent hText (fun line h => hUnbroken line (hMem h))
      (fun line h => hIndent line (hMem h))
    obtain ⟨kept, last, hDedent, hNe⟩ := exists_dedent_concat front hText
    have hDedentUnbroken {line : Line} (h : line ∈ dedent (front ++ [final])) : '\n' ∉ line :=
      newline_notMem_of_mem_dedent (fun line h => hUnbroken line (hMem h)) h
    refine .inr ⟨_, hSettled, ?_⟩
    rw [hDedent] at hDedentUnbroken ⊢
    exact trimNewlines_joinLines (fun _ => hDedentUnbroken) hNe

theorem head_trimChars {cs rest : List Char} {c : Char} (h : trimChars cs = c :: rest) :
    isBlank c = false := by
  rw [trimChars, dropEndWhile_eq_rdropWhile] at h
  obtain ⟨behind, hBehind⟩ := List.rdropWhile_prefix isBlank (cs.dropWhile isBlank)
  rw [h, List.cons_append] at hBehind
  have hSome : cs.dropWhile isBlank ≠ [] := by simp [← hBehind]
  have hHead := List.head_dropWhile_not isBlank hSome
  simpa only [← hBehind, List.head_cons] using hHead

theorem mem_of_mem_trimChars {cs : List Char} {c : Char} (h : c ∈ trimChars cs) : c ∈ cs := by
  rw [trimChars, dropEndWhile_eq_rdropWhile] at h
  exact (List.dropWhile_sublist _).subset ((List.rdropWhile_prefix isBlank _).subset h)

theorem settled_cons {c : Char} {first : Line} (hText : isBlank c = false)
    (hUnbroken : '\n' ∉ c :: first) {ls : List Line} (hRest : ls = [] ∨ Settled ls) :
    Settled ((c :: first) :: ls) where
  unbroken := by
    refine List.forall_mem_cons.mpr ⟨hUnbroken, ?_⟩
    rcases hRest with rfl | hRest
    · simp
    · exact hRest.unbroken
  blank_empty := by
    refine List.forall_mem_cons.mpr ⟨fun hBlank => ?_, ?_⟩
    · simp [isBlankText, hText] at hBlank
    · rcases hRest with rfl | hRest
      · simp
      · exact hRest.blank_empty
  head := ⟨_, _, rfl, List.cons_ne_nil _ _⟩
  last := by
    rcases hRest with rfl | hRest
    · exact ⟨[], _, rfl, List.cons_ne_nil _ _⟩
    · obtain ⟨front, final, rfl, hNe⟩ := hRest.last
      exact ⟨_ :: front, final, rfl, hNe⟩
  flush := by
    refine margin_cons_of_indentOf (List.cons_ne_nil _ _) ?_ ls
    have hIndent : isIndent c = false :=
      Bool.eq_false_iff.mpr fun h => Bool.false_ne_true (hText.symm.trans (isBlank_of_isIndent h))
    simp [indentOf, hIndent]

/-- Text between braces is read as settled lines, or as none. -/
theorem settles_normalizeBody {cs : List Char} (hPlain : PlainBlanks cs) :
    normalizeBody cs = [] ∨ ∃ ls, Settled ls ∧ normalizeBody cs = joinLines ls := by
  obtain ⟨opening, rest, hLines⟩ := List.exists_cons_of_ne_nil (lines_ne_nil cs)
  have hUnbroken : ∀ line ∈ opening :: rest, '\n' ∉ line :=
    fun line hMem => newline_notMem_of_mem_lines (hLines ▸ hMem)
  have hIndent : ∀ line ∈ rest, isBlankText line = true → line.all isIndent = true :=
    fun line hMem => isIndent_of_plain hPlain (hLines ▸ List.mem_cons_of_mem _ hMem)
  obtain ⟨hOpening, hRest⟩ := List.forall_mem_cons.mp hUnbroken
  have hBody := settles_below hRest hIndent
  rw [normalizeBody_of_lines hLines]
  generalize trimNewlines (joinLines (dedent (dropEndWhile isBlankText rest))) = body at hBody ⊢
  cases hFirst : trimChars opening with
  | nil => exact hBody
  | cons c first =>
    have hHead : '\n' ∉ c :: first :=
      fun hMem => hOpening (mem_of_mem_trimChars (hFirst ▸ hMem))
    have hText := head_trimChars hFirst
    right
    rcases hBody with rfl | ⟨ls, hSettled, rfl⟩
    · exact ⟨[c :: first], settled_cons hText hHead (.inl rfl), by simp⟩
    · obtain ⟨line, ls, rfl, hNe⟩ := hSettled.head
      have hSome : joinLines (line :: ls) ≠ [] := by
        obtain ⟨d, line, rfl⟩ := List.exists_cons_of_ne_nil hNe
        rw [joinLines_cons_cons]
        exact List.cons_ne_nil _ _
      refine ⟨(c :: first) :: line :: ls, settled_cons hText hHead (.inr hSettled), ?_⟩
      rw [joinLines_cons (List.cons_ne_nil _ _)]
      simp [hSome]

end SwiftDerive.Text
