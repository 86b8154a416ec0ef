import SwiftDerive.Proofs.Text.Settled
import SwiftDerive.Syntax.Layout

/-! # Raw text printed and read again

Raw text is printed line by line at the depth where it stands, and read again without the indentation
it got there. No word is lost or invented on either way. Statement text and the text of a declaration
come back as they were, so that reading and printing again and again moves nothing.
-/

namespace SwiftDerive.Layout

set_option autoImplicit false

open Text

def bodyText (source : String) : String :=
  String.ofList (normalizeBody source.toList)

def declarationText (width : Nat) (source : String) : String :=
  String.ofList (stripIndent width source.toList)

def printed (depth : Nat) (text : String) : String :=
  "\n".intercalate (textLines depth text)

def lineAt (depth : Nat) (line : Line) : Line :=
  if isBlankText line then [] else (indent depth).toList ++ line

def between (depth : Nat) (text : String) : String :=
  "\n" ++ printed (depth + 1) text ++ "\n" ++ indent depth

/-! ## Printed lines -/

theorem toList_indent (depth : Nat) : (indent depth).toList = List.replicate (4 * depth) ' ' := by
  rw [indent, String.toList_ofList]

theorem length_indent (depth : Nat) : (indent depth).toList.length = 4 * depth := by
  rw [toList_indent, List.length_replicate]

theorem isIndent_of_mem_indent {depth : Nat} {c : Char} (h : c ∈ (indent depth).toList) :
    isIndent c = true := by
  rw [toList_indent] at h
  rw [List.eq_of_mem_replicate h]
  rfl

theorem isBlank_of_mem_indent {depth : Nat} {c : Char} (h : c ∈ (indent depth).toList) :
    isBlank c = true :=
  isBlank_of_isIndent (isIndent_of_mem_indent h)

theorem toList_printed (depth : Nat) (text : String) :
    (printed depth text).toList = joinLines ((lines text.toList).map (lineAt depth)) := by
  rw [printed, String.toList_intercalate, textLines, List.map_map]
  refine congrArg joinLines (List.map_congr_left fun line _ => ?_)
  rw [Function.comp_apply, lineAt]
  split
  · rfl
  · rw [String.toList_append, String.toList_ofList]

theorem lineAt_of_some {line : Line} (h : isBlankText line = false) (depth : Nat) :
    lineAt depth line = (indent depth).toList ++ line := by
  rw [lineAt, if_neg (by simp [h])]

theorem newline_notMem_lineAt {line : Line} (h : '\n' ∉ line) (depth : Nat) :
    '\n' ∉ lineAt depth line := by
  rw [lineAt]
  split
  · exact List.not_mem_nil
  · exact fun hMem => (List.mem_append.mp hMem).elim
      (newline_notMem_of_indents fun _ => isIndent_of_mem_indent) h

theorem words_lineAt (depth : Nat) (line : Line) : words (lineAt depth line) = words line := by
  rw [lineAt]
  split
  · next hBlank => rw [words_nil, words_of_blanks (List.all_eq_true.mp hBlank)]
  · rw [words_blanks_append fun _ hMem => isBlank_of_mem_indent hMem]

theorem words_printed (depth : Nat) (text : String) :
    words (printed depth text).toList = words text.toList := by
  rw [toList_printed, words_joinLines, List.flatMap_map]
  simp only [words_lineAt, flatMap_words_lines]

/-- Statement text and the text of a declaration, printed at any depth, have the words of the source
text that they were read from. -/
theorem printed_keeps_words (source : String) (width depth : Nat) :
    (words (printed depth (bodyText source)).toList = words source.toList ∧
        collapseBlanks (printed depth (bodyText source)) = collapseBlanks source) ∧
      words (printed depth (declarationText width source)).toList = words source.toList ∧
        collapseBlanks (printed depth (declarationText width source)) = collapseBlanks source := by
  have hBody : words (printed depth (bodyText source)).toList = words source.toList := by
    rw [words_printed, bodyText, String.toList_ofList, words_normalizeBody]
  have hDeclaration :
      words (printed depth (declarationText width source)).toList = words source.toList := by
    rw [words_printed, declarationText, String.toList_ofList, words_stripIndent]
  refine ⟨⟨hBody, ?_⟩, hDeclaration, ?_⟩
  · rw [collapseBlanks, hBody, collapseBlanks]
  · rw [collapseBlanks, hDeclaration, collapseBlanks]

/-! ## Printing and reading again -/

theorem lineAt_eq_shiftLine {ls : List Line} (h : Settled ls) {line : Line} (hMem : line ∈ ls)
    (depth : Nat) : lineAt depth line = shiftLine (indent depth).toList line := by
  by_cases hEmpty : line = []
  · rw [hEmpty]
    rfl
  · rw [lineAt_of_some (h.blank_eq_false hMem hEmpty), shiftLine_of_ne_nil hEmpty]

theorem toList_between (depth : Nat) (text : String) :
    (between depth text).toList =
      '\n' :: ((printed (depth + 1) text).toList ++ '\n' :: (indent depth).toList) := by
  have hNewline : "\n".toList = ['\n'] := rfl
  simp [between, hNewline]

theorem normalizeBody_between_empty (depth : Nat) :
    normalizeBody (between depth "").toList = [] := by
  have hPrinted : (printed (depth + 1) "").toList = joinLines [[]] := by
    rw [toList_printed]
    rfl
  rw [toList_between, hPrinted,
    normalizeBody_braced (List.cons_ne_nil _ _) (by simp) fun _ => isIndent_of_mem_indent]
  rfl

theorem bodyText_between {source : String} (hPlain : PlainBlanks source.toList) (depth : Nat) :
    bodyText (between depth (bodyText source)) = bodyText source := by
  refine congrArg String.ofList ?_
  rw [bodyText]
  rcases settles_normalizeBody hPlain with hEmpty | ⟨ls, hSettled, hLines⟩
  · rw [hEmpty]
    exact normalizeBody_between_empty depth
  · obtain ⟨first, rest, hFirst, _⟩ := hSettled.head
    have hNe : ls ≠ [] := by simp [hFirst]
    rw [toList_between, toList_printed, String.toList_ofList, hLines,
      lines_joinLines hNe hSettled.unbroken,
      List.map_congr_left fun line hMem => lineAt_eq_shiftLine hSettled hMem (depth + 1)]
    exact normalizeBody_map_shiftLine hSettled (fun _ => isIndent_of_mem_indent)
      (fun _ => isIndent_of_mem_indent)

theorem bodyLines_raw (depth : Nat) (header text : String) :
    (Statement.bodyLines depth header (some (.block [.raw text]))).map "\n".intercalate =
      .ok (indent depth ++ header ++ " \x7b" ++ between depth text ++ "\x7d") := by
  have hLines : Statement.bodyLines depth header (some (.block [.raw text])) =
      .ok (braced depth header (textLines (depth + 1) text)) := by
    simp only [Statement.bodyLines, Statement.lines, Statement.linesAll]
    change Except.ok (braced depth header (textLines (depth + 1) text ++ [])) = _
    rw [List.append_nil]
  have hSome : (textLines (depth + 1) text).map String.toList ≠ [] := by
    simp [textLines, lines_ne_nil]
  have hNewline : "\n".toList = ['\n'] := rfl
  rw [hLines]
  refine congrArg Except.ok (String.toList_inj.mp ?_)
  simp only [String.toList_intercalate, String.toList_append, toList_between, braced, List.cons_append,
    List.map_cons, List.map_append, List.map_nil, printed, hNewline]
  change joinLines (_ :: (_ ++ [_])) = _ ++ '\n' :: (joinLines _ ++ _) ++ _
  rw [joinLines_cons (by simp), joinLines_concat hSome]
  simp only [List.append_assoc, List.cons_append]

theorem dropIndent_lineAt {line : Line} (hBlank : isBlankText line = true → line = []) (depth : Nat) :
    dropIndent (4 * depth) (lineAt depth line) = line := by
  cases hText : isBlankText line with
  | true =>
    rw [hBlank hText]
    rfl
  | false =>
    rw [lineAt_of_some hText, dropIndent, indentOf_append fun _ => isIndent_of_mem_indent,
      List.length_append, length_indent, Nat.min_eq_right (Nat.le_add_right _ _),
      List.drop_left' (length_indent depth)]

theorem stripIndent_printed {text : String} {c : Char} {cs : List Char}
    (hStart : text.toList = c :: cs) (hText : isBlank c = false)
    (hBlank : ∀ line ∈ lines text.toList, isBlankText line = true → line = []) (depth : Nat) :
    stripIndent (4 * depth) ((printed depth text).toList.dropWhile isBlank) = text.toList := by
  obtain ⟨first, rest, hLines⟩ := List.exists_cons_of_ne_nil (lines_ne_nil text.toList)
  have hJoined : joinLines (first :: rest) = c :: cs := by rw [← hLines, joinLines_lines, hStart]
  obtain ⟨line, rfl⟩ : ∃ line, first = c :: line := by
    cases first with
    | nil =>
      by_cases hEmpty : rest = []
      · simp [hEmpty] at hJoined
      · rw [joinLines_cons hEmpty] at hJoined
        obtain ⟨rfl, _⟩ := List.cons.inj hJoined
        cases hText
    | cons d line =>
      rw [joinLines_cons_cons] at hJoined
      exact ⟨line, by rw [(List.cons.inj hJoined).1]⟩
  have hFirst : isBlankText (c :: line) = false := by simp [isBlankText, hText]
  have hUnbroken : ∀ l ∈ (c :: line) :: rest, '\n' ∉ l :=
    fun l hMem => newline_notMem_of_mem_lines (hLines ▸ hMem)
  have hPrinted : ∀ l ∈ (c :: line) :: rest.map (lineAt depth), '\n' ∉ l := by
    obtain ⟨hHead, hRest⟩ := List.forall_mem_cons.mp hUnbroken
    refine List.forall_mem_cons.mpr ⟨hHead, fun l hMem => ?_⟩
    obtain ⟨original, hOriginal, rfl⟩ := List.mem_map.mp hMem
    exact newline_notMem_lineAt (hRest original hOriginal) depth
  have hBack : (rest.map (lineAt depth)).map (dropIndent (4 * depth)) = rest := by
    rw [List.map_map]
    refine (List.map_congr_left fun l hMem => ?_).trans (List.map_id _)
    exact dropIndent_lineAt (hBlank l (hLines ▸ List.mem_cons_of_mem _ hMem)) depth
  rw [toList_printed, hLines, List.map_cons, lineAt_of_some hFirst, joinLines_append_cons,
    List.dropWhile_append_of_pos fun _ => isBlank_of_mem_indent, joinLines_cons_cons,
    List.dropWhile_cons_of_neg (by simp [hText]), ← joinLines_cons_cons, stripIndent,
    lines_joinLines (List.cons_ne_nil _ _) hPrinted]
  simp only [hBack]
  rw [hJoined, hStart]

/-- Statement text and the text of a declaration come back from every depth. Between the braces, blank
characters other than spaces, tabs and line feeds are no indentation; the text of a declaration must
start its first line and leave blank lines empty. -/
theorem printed_rereads :
    (∀ source : String, PlainBlanks source.toList → ∀ depth header,
      (Statement.bodyLines depth header (some (.block [.raw (bodyText source)]))).map
            "\n".intercalate =
          .ok (indent depth ++ header ++ " \x7b" ++ between depth (bodyText source) ++ "\x7d") ∧
        bodyText (between depth (bodyText source)) = bodyText source) ∧
      ∀ (text : String) (c : Char) (cs : List Char), text.toList = c :: cs → isBlank c = false →
        (∀ line ∈ lines text.toList, isBlankText line = true → line = []) → ∀ depth,
        declarationText (4 * depth) (String.ofList ((printed depth text).toList.dropWhile isBlank)) =
          text := by
  constructor
  · intro source hPlain depth header
    exact ⟨bodyLines_raw depth header _, bodyText_between hPlain depth⟩
  · intro text c cs hStart hText hBlank depth
    rw [declarationText, String.toList_ofList, stripIndent_printed hStart hText hBlank depth,
      String.ofList_toList]

def guardedText : String :=
  "\n\t\tguard ready else \x7b\n\n\t\t    return 0\n\t\t\x7d\n\t\treturn count\n\t"

def subscriptText : String :=
  "subscript(i: Int) -> Int \x7b\n\n    items[i]\n\x7d"

theorem printed_rereads_guarded :
    PlainBlanks guardedText.toList ∧
      bodyText (between 1 (bodyText guardedText)) = bodyText guardedText ∧
      (∀ line ∈ lines subscriptText.toList, isBlankText line = true → line = []) ∧
      declarationText 8 (String.ofList ((printed 2 subscriptText).toList.dropWhile isBlank)) =
        subscriptText := by
  have hAll : guardedText.toList.all
      (fun c => !isBlank c || c == ' ' || c == '\t' || c == '\n') = true := by decide
  have hPlain : PlainBlanks guardedText.toList := fun c hMem hText => by
    simpa [hText, or_assoc] using List.all_eq_true.mp hAll c hMem
  have hBlank : ∀ line ∈ lines subscriptText.toList, isBlankText line = true → line = [] := by decide
  exact ⟨hPlain, (printed_rereads.1 guardedText hPlain 1 "var count: Int").2, hBlank,
    printed_rereads.2 subscriptText 's' _ rfl rfl hBlank 2⟩

end SwiftDerive.Layout
