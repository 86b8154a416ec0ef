import SwiftDerive.Proofs.Text.Lines

/-! # Words of texts that are trimmed and dedented

A blank character stands between words and belongs to none, so that the words of a text are those of
its parts between blank characters. Trimming, dedenting and dropping indentation take away and put in
nothing else: the words stay, in their order.
-/

namespace SwiftDerive.Text

set_option autoImplicit false

/-! ## Words of parts -/

@[simp] theorem words_nil : words [] = [] := by
  simp [words, List.splitOnP_nil]

theorem words_append_blank {c : Char} (hBlank : isBlank c = true) (as bs : List Char) :
    words (as ++ c :: bs) = words as ++ words bs := by
  rw [words, List.splitOnP_append_cons as bs hBlank, List.filter_append]
  rfl

theorem words_blank_cons {c : Char} (hBlank : isBlank c = true) (cs : List Char) :
    words (c :: cs) = words cs :=
  words_append_blank hBlank [] cs |>.trans (by rw [words_nil, List.nil_append])

theorem words_blanks_append {front : List Char} (hBlank : ∀ c ∈ front, isBlank c = true)
    (cs : List Char) : words (front ++ cs) = words cs := by
  induction front with
  | nil => rfl
  | cons c front ih =>
    obtain ⟨hHead, hTail⟩ := List.forall_mem_cons.mp hBlank
    rw [List.cons_append, words_blank_cons hHead, ih hTail]

theorem words_of_blanks {cs : List Char} (hBlank : ∀ c ∈ cs, isBlank c = true) : words cs = [] := by
  rw [← List.append_nil cs, words_blanks_append hBlank, words_nil]

theorem words_append_blanks {back : List Char} (hBlank : ∀ c ∈ back, isBlank c = true)
    (cs : List Char) : words (cs ++ back) = words cs := by
  cases back with
  | nil => rw [List.append_nil]
  | cons c back =>
    obtain ⟨hHead, hTail⟩ := List.forall_mem_cons.mp hBlank
    rw [words_append_blank hHead, words_of_blanks hTail, List.append_nil]

theorem words_joinLines (ls : List Line) : words (joinLines ls) = ls.flatMap words := by
  induction ls with
  | nil => rfl
  | cons line ls ih =>
    by_cases hEmpty : ls = []
    · simp [hEmpty, joinLines]
    · rw [joinLines_cons hEmpty, words_append_blank isBlank_newline, ih, List.flatMap_cons]

theorem flatMap_words_lines (cs : List Char) : (lines cs).flatMap words = words cs := by
  rw [← words_joinLines, joinLines_lines]

/-! ## Trimming -/

section Trimming

variable {p : Char → Bool} (hBlank : ∀ c, p c = true → isBlank c = true)

include hBlank

theorem words_dropWhile (cs : List Char) : words (cs.dropWhile p) = words cs := by
  conv_rhs => rw [← List.takeWhile_append_dropWhile (p := p) (l := cs)]
  rw [words_blanks_append fun c hMem => hBlank c (List.mem_takeWhile_imp hMem)]

theorem words_dropEndWhile (cs : List Char) : words (dropEndWhile p cs) = words cs := by
  conv_rhs => rw [← List.rdropWhile_append_rtakeWhile (p := p) (l := cs)]
  rw [words_append_blanks fun c hMem => hBlank c (List.mem_rtakeWhile_imp hMem)]
  rfl

end Trimming

theorem isBlank_of_isIndent {c : Char} (h : isIndent c = true) : isBlank c = true := by
  rcases Bool.or_eq_true_iff.mp h with hSpace | hTab
  · rw [eq_of_beq hSpace]
    rfl
  · rw [eq_of_beq hTab]
    rfl

theorem isBlank_of_newline {c : Char} (h : (c == '\n') = true) : isBlank c = true :=
  eq_of_beq h ▸ isBlank_newline

theorem words_trimChars (cs : List Char) : words (trimChars cs) = words cs := by
  rw [trimChars, words_dropEndWhile fun _ h => h, words_dropWhile fun _ h => h]

theorem words_trimNewlines (cs : List Char) : words (trimNewlines cs) = words cs := by
  rw [trimNewlines, words_dropEndWhile fun _ h => isBlank_of_newline h,
    words_dropWhile fun _ h => isBlank_of_newline h]

/-! ## Lines -/

theorem words_shiftLine {front : Line} (hFront : ∀ c ∈ front, isBlank c = true) (line : Line) :
    words (shiftLine front line) = words line := by
  by_cases hEmpty : line = []
  · rw [hEmpty, shiftLine_nil]
  · rw [shiftLine_of_ne_nil hEmpty, words_blanks_append hFront]

theorem words_clearLine (line : Line) : words (clearLine line) = words line := by
  rw [clearLine]
  split
  · next hIndent =>
    rw [words_nil, words_of_blanks fun c hMem =>
      isBlank_of_isIndent (List.all_eq_true.mp hIndent c hMem)]
  · rfl

theorem flatMap_words_dedent (ls : List Line) : (dedent ls).flatMap words = ls.flatMap words := by
  have hMargin : ∀ c ∈ margin (ls.map clearLine), isBlank c = true :=
    fun c hMem => isBlank_of_isIndent (isIndent_of_mem_margin hMem)
  calc (dedent ls).flatMap words
      = ((dedent ls).map (shiftLine (margin (ls.map clearLine)))).flatMap words := by
        simp only [List.flatMap_map, words_shiftLine hMargin]
    _ = (ls.map clearLine).flatMap words := by rw [map_shiftLine_dedent]
    _ = ls.flatMap words := by simp only [List.flatMap_map, words_clearLine]

theorem flatMap_words_dropEndWhile (ls : List Line) :
    (dropEndWhile isBlankText ls).flatMap words = ls.flatMap words := by
  conv_rhs => rw [← List.rdropWhile_append_rtakeWhile (p := isBlankText) (l := ls)]
  have hTail : (ls.rtakeWhile isBlankText).flatMap words = [] := by
    refine List.flatMap_eq_nil_iff.mpr fun line hMem => ?_
    have hLine : isBlankText line = true := List.mem_rtakeWhile_imp hMem
    exact words_of_blanks (List.all_eq_true.mp hLine)
  rw [List.flatMap_append, hTail, List.append_nil]
  rfl

theorem words_dropIndent (width : Nat) (line : Line) :
    words (dropIndent width line) = words line := by
  conv_rhs => rw [← List.take_append_drop (min (indentOf line).length width) line]
  rw [words_blanks_append, dropIndent]
  intro c hMem
  have hIndent : line.take (indentOf line).length = indentOf line :=
    (List.prefix_iff_eq_take.mp (List.takeWhile_prefix isIndent)).symm
  have hTaken := List.take_prefix_take_left (l := line)
    (Nat.min_le_left (indentOf line).length width)
  rw [hIndent] at hTaken
  exact isBlank_of_isIndent (isIndent_of_mem_indentOf (hTaken.subset hMem))

/-! ## Raw text -/

theorem words_normalizeBody (cs : List Char) : words (normalizeBody cs) = words cs := by
  obtain ⟨opening, rest, hLines⟩ := List.exists_cons_of_ne_nil (lines_ne_nil cs)
  have hBody : words (trimNewlines (joinLines (dedent (dropEndWhile isBlankText rest)))) =
      rest.flatMap words := by
    rw [words_trimNewlines, words_joinLines, flatMap_words_dedent, flatMap_words_dropEndWhile]
  rw [normalizeBody_of_lines hLines, ← flatMap_words_lines cs, hLines, List.flatMap_cons,
    ← words_trimChars opening, ← hBody]
  simp only [List.isEmpty_iff]
  split
  · next hEmpty => rw [hEmpty, words_nil, List.nil_append]
  · split
    · next hEmpty => rw [hEmpty, words_nil, List.append_nil]
    · rw [words_append_blank isBlank_newline]

theorem words_stripIndent (width : Nat) (cs : List Char) : words (stripIndent width cs) = words cs := by
  conv_rhs => rw [← flatMap_words_lines cs]
  rw [stripIndent]
  cases lines cs with
  | nil => rfl
  | cons first rest =>
    rw [words_joinLines, List.flatMap_cons, List.flatMap_cons, List.flatMap_map]
    simp only [words_dropIndent]

end SwiftDerive.Text
