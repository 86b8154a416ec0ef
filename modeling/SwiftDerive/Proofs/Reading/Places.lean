import SwiftDerive.Grammar.Source
import SwiftDerive.Proofs.Text.Utf8

/-! # Places in a text

A node is known by its bytes, and its place is given in lines and characters. The place can be told
from the characters before the node; or from its row and its column in bytes, by reading the bytes of
the row before it as text. The two agree where a node starts with a character.
-/

namespace SwiftDerive.Text

set_option autoImplicit false

def lastRow (cs : List Char) : Line :=
  cs.rtakeWhile (· != '\n')

theorem newline_notMem_lastRow (cs : List Char) : '\n' ∉ lastRow cs := by
  intro hMem
  simpa using List.mem_rtakeWhile_imp hMem

theorem lastRow_of_notMem {cs : List Char} (h : '\n' ∉ cs) : lastRow cs = cs := by
  refine List.rtakeWhile_eq_self_iff.mpr fun c hMem => ?_
  rw [bne_iff_ne]
  rintro rfl
  exact h hMem

theorem lastRow_append_newline (above row : List Char) :
    lastRow (above ++ '\n' :: row) = lastRow row :=
  rtakeWhile_append_cons rfl above row

theorem eq_lastRow_or_exists_above (cs : List Char) :
    cs = lastRow cs ∨ ∃ above, cs = above ++ '\n' :: lastRow cs := by
  induction cs using List.reverseRecOn with
  | nil => exact .inl rfl
  | append_singleton cs c ih =>
    by_cases hNewline : c = '\n'
    · refine .inr ⟨cs, ?_⟩
      rw [hNewline, lastRow_append_newline]
      rfl
    · have hRow : lastRow (cs ++ [c]) = lastRow cs ++ [c] :=
        List.rtakeWhile_concat_pos _ _ _ (by simpa using hNewline)
      rw [hRow]
      rcases ih with hSame | ⟨above, hAbove⟩
      · exact .inl (by rw [← hSame])
      · exact .inr ⟨above, by rw [← List.cons_append, ← List.append_assoc, ← hAbove]⟩

theorem lines_append_newline (above row : List Char) :
    lines (above ++ '\n' :: row) = lines above ++ lines row :=
  List.splitOnP_append_cons above row (beq_self_eq_true '\n')

theorem length_lines (cs : List Char) : (lines cs).length = cs.count '\n' + 1 := by
  induction cs with
  | nil => rfl
  | cons c cs ih =>
    by_cases hNewline : c = '\n'
    · rw [hNewline, lines, splitOn_cons_self, List.length_cons, ← lines, ih, List.count_cons_self]
    · obtain ⟨first, rest, hLines⟩ := List.exists_cons_of_ne_nil (lines_ne_nil cs)
      have hHead : '\n' ∉ [c] := by simpa using Ne.symm hNewline
      have hCons : lines (c :: cs) = (c :: first) :: rest := splitOn_append_of_notMem hHead hLines
      rw [hCons, List.count_cons_of_ne hNewline, ← ih, hLines]
      rfl

theorem getElem?_lines (front rest : List Char) :
    ∃ behind, (lines (front ++ rest))[front.count '\n']? = some (lastRow front ++ behind) := by
  have hCases := eq_lastRow_or_exists_above front
  have hNone := newline_notMem_lastRow front
  generalize lastRow front = row at hCases hNone ⊢
  obtain ⟨behind, parts, hRest⟩ := List.exists_cons_of_ne_nil (lines_ne_nil rest)
  have hRow : lines (row ++ rest) = (row ++ behind) :: parts := splitOn_append_of_notMem hNone hRest
  refine ⟨behind, ?_⟩
  rcases hCases with rfl | ⟨above, rfl⟩
  · rw [List.count_eq_zero.mpr hNone, hRow]
    rfl
  · have hIndex : (above ++ '\n' :: row).count '\n' = (lines above).length := by
      rw [length_lines, List.count_append, List.count_cons_self, List.count_eq_zero.mpr hNone]
    rw [hIndex, List.append_assoc, List.cons_append, lines_append_newline,
      List.getElem?_append_right (Nat.le_refl _), Nat.sub_self, hRow]
    rfl

end SwiftDerive.Text

namespace SwiftDerive.Grammar

set_option autoImplicit false

open Text

/-- The place behind a text: one more than its line feeds, and one more than the characters since the
last of them. -/
def place (before : List Char) : Position where
  line := 1 + before.count '\n'
  column := 1 + (lastRow before).length

theorem one_le_column (cs : List Char) : 1 ≤ (place cs).column := by
  simp only [place]
  omega

theorem place_append_newline {header : List Char} (hHeader : '\n' ∉ header) (cs : List Char) :
    place (header ++ '\n' :: cs) = ⟨(place cs).line + 1, (place cs).column⟩ := by
  rw [place, place, lastRow_append_newline, List.count_append, List.count_cons_self,
    List.count_eq_zero.mpr hHeader, Position.mk.injEq]
  exact ⟨by push_cast; omega, rfl⟩

/-- A header in the first line of a text moves what else is in that line, and only that. -/
theorem place_append {header : List Char} (hHeader : '\n' ∉ header) (cs : List Char) :
    place (header ++ cs) =
      ⟨(place cs).line,
        if '\n' ∈ cs then (place cs).column else header.length + (place cs).column⟩ := by
  have hLine : (header ++ cs).count '\n' = cs.count '\n' := by
    rw [List.count_append, List.count_eq_zero.mpr hHeader, Nat.zero_add]
  rw [place, hLine, Position.mk.injEq]
  refine ⟨rfl, ?_⟩
  split
  · next hBroken =>
    rcases eq_lastRow_or_exists_above cs with hSame | ⟨above, hAbove⟩
    · exact absurd (hSame ▸ hBroken) (newline_notMem_lastRow cs)
    · rw [place, hAbove, ← List.append_assoc, lastRow_append_newline, lastRow_append_newline]
  · next hUnbroken =>
    have hBoth : '\n' ∉ header ++ cs := by
      rw [List.mem_append]
      exact not_or.mpr ⟨hHeader, hUnbroken⟩
    rw [place, lastRow_of_notMem hBoth, lastRow_of_notMem hUnbroken, List.length_append]
    push_cast
    omega

/-! ## Rows and columns in bytes -/

/-- A row of a text and a column of bytes in it, both from zero. -/
structure Point where
  row : Nat
  column : Nat

def pointAt (bytes : List UInt8) (offset : Nat) : Point where
  row := (bytes.take offset).count newlineByte
  column := ((bytes.take offset).rtakeWhile (· != newlineByte)).length

/-- The place that a row and a column of bytes stand for: the bytes of the row before the column are
read as text. -/
def Source.placeOf (src : Source) (p : Point) : Option Position := do
  let row ← ((encodeUtf8 src.content).splitOn newlineByte)[p.row]?
  let cs ← (decodeUtf8 (row.take p.column)).toOption
  return ⟨p.row + 1 - src.lineOffset, cs.length + 1⟩

theorem lastRow_encodeUtf8 (cs : List Char) :
    (encodeUtf8 cs).rtakeWhile (· != newlineByte) = encodeUtf8 (lastRow cs) := by
  have hKept : ∀ b ∈ encodeUtf8 (lastRow cs), (b != newlineByte) = true := by
    intro b hMem
    rw [bne_iff_ne]
    rintro rfl
    exact newlineByte_notMem_encodeUtf8 (newline_notMem_lastRow cs) hMem
  rcases eq_lastRow_or_exists_above cs with hSame | ⟨above, hAbove⟩
  · rw [← hSame] at hKept ⊢
    exact List.rtakeWhile_eq_self_iff.mpr hKept
  · have hBytes : encodeUtf8 cs =
        encodeUtf8 above ++ newlineByte :: encodeUtf8 (lastRow cs) := by
      conv_lhs => rw [hAbove]
      rw [encodeUtf8_append, encodeUtf8_cons, encodeChar_newline, List.singleton_append]
    rw [hBytes, rtakeWhile_append_cons (by simp)]
    exact List.rtakeWhile_eq_self_iff.mpr hKept

theorem pointAt_encodeUtf8 (front rest : List Char) :
    pointAt (encodeUtf8 (front ++ rest)) (encodeUtf8 front).length =
      ⟨front.count '\n', (encodeUtf8 (lastRow front)).length⟩ := by
  rw [pointAt, encodeUtf8_append, List.take_left, count_newlineByte, lastRow_encodeUtf8]

/-! ## Nodes that start with a character -/

theorem takeBytes_append (front rest : List Char) :
    takeBytes (encodeUtf8 front).length (front ++ rest) = front := by
  induction front with
  | nil => cases rest <;> rfl
  | cons c front ih =>
    have hSize := c.utf8Size_pos
    rw [encodeUtf8_cons, List.length_append, String.length_utf8EncodeChar]
    obtain ⟨n, hLength⟩ : ∃ n, c.utf8Size + (encodeUtf8 front).length = n + 1 :=
      ⟨c.utf8Size - 1 + (encodeUtf8 front).length, by omega⟩
    have hRest : n + 1 - c.utf8Size = (encodeUtf8 front).length := by omega
    rw [hLength, List.cons_append, takeBytes, hRest, ih]

def Node.StartsBehind (n : Node) (front : List Char) : Prop :=
  n.start = (encodeUtf8 front).length

section

variable {src : Source} {n : Node} {front rest : List Char} (hContent : src.content = front ++ rest)
  (hStart : n.StartsBehind front)

include hContent hStart

theorem before_eq : src.before n = front := by
  rw [Source.before, hContent, hStart, takeBytes_append]

theorem position_eq_place :
    src.position n = ⟨(place front).line - src.lineOffset, (place front).column⟩ := by
  rw [Source.position, before_eq hContent hStart, place, lastRow, List.rtakeWhile,
    List.length_reverse, Position.mk.injEq]
  constructor
  · push_cast
    omega
  · push_cast
    omega

/-- The place of a node can be told from its row and column in bytes. -/
theorem placeOf_pointAt :
    src.placeOf (pointAt (encodeUtf8 src.content) n.start) = some (src.position n) := by
  obtain ⟨behind, hLine⟩ := getElem?_lines front rest
  have hRow : ((encodeUtf8 (front ++ rest)).splitOn newlineByte)[front.count '\n']? =
      some (encodeUtf8 (lastRow front) ++ encodeUtf8 behind) := by
    rw [splitOn_encodeUtf8, List.getElem?_map, hLine, Option.map_some, encodeUtf8_append]
  rw [position_eq_place hContent hStart, hStart, hContent, pointAt_encodeUtf8, Source.placeOf,
    hContent, hRow, Option.bind_eq_bind, Option.bind_some, List.take_left, decodeUtf8_encodeUtf8]
  simp only [Except.toOption, Option.bind_eq_bind, Option.bind_some, pure, place, Option.some.injEq,
    Position.mk.injEq]
  omega

end

end SwiftDerive.Grammar
