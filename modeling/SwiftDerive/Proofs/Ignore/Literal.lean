import SwiftDerive.Files.Path
import SwiftDerive.Ignore.Rules
import SwiftDerive.Proofs.Text.Lines

/-! # Patterns that are plain paths

A pattern of several names without wildcards describes one place. It hits the place and what is below
it and nothing else, but for a line feed at the end of a path, which does not show.
-/

namespace SwiftDerive.Ignore

set_option autoImplicit false

def isLiteral (c : Char) : Bool := c ≠ '*' && c ≠ '?' && c ≠ '[' && c ≠ '\\'

def isPlainName (name : String) : Bool :=
  name ≠ "" && name.toList.all isLiteral && !name.toList.contains '/'

structure PlainSegment (segment : Segment) : Prop where
  nonempty : segment ≠ []
  literal : ∀ c ∈ segment, isLiteral c = true
  whole : '/' ∉ segment

theorem plainSegment_of_isPlainName {name : String} (h : isPlainName name = true) :
    PlainSegment name.toList := by
  simp only [isPlainName, Bool.and_eq_true, decide_eq_true_eq, List.all_eq_true, Bool.not_eq_true',
    List.contains_eq_mem, decide_eq_false_iff_not] at h
  exact ⟨fun hNil => h.left.left (String.toList_eq_nil_iff.mp hNil), h.left.right, h.right⟩

/-! ## Steps of a plain path -/

theorem globSteps?_of_literal {cs : List Char} (h : ∀ c ∈ cs, isLiteral c = true) :
    globSteps? cs = some (cs.map Step.char) := by
  induction cs with
  | nil => rw [globSteps?, List.map_nil]
  | cons c cs ih =>
    obtain ⟨hHead, hTail⟩ := List.forall_mem_cons.mp h
    simp only [isLiteral, Bool.and_eq_true, decide_eq_true_eq, ne_eq] at hHead
    obtain ⟨⟨⟨hStar, hMark⟩, hBracket⟩, hEscape⟩ := hHead
    rw [globSteps?, ih hTail, List.map_cons]
    · rfl
    all_goals simp_all

namespace PlainSegment

variable {segment : Segment}

theorem ne_anyFolders (h : PlainSegment segment) : segment ≠ anyFolders := by
  rintro rfl
  exact absurd (h.literal '*' List.mem_cons_self) (by decide)

theorem ne_star (h : PlainSegment segment) : segment ≠ ['*'] := by
  rintro rfl
  exact absurd (h.literal '*' List.mem_cons_self) (by decide)

end PlainSegment

variable {segments : List Segment}

theorem laterSteps?_of_plain (h : ∀ s ∈ segments, PlainSegment s) :
    laterSteps? false true segments =
      some ((segments.flatMap fun s => '/' :: s).map Step.char, .anywhere) := by
  induction segments with
  | nil => rfl
  | cons segment segments ih =>
    obtain ⟨hHead, hTail⟩ := List.forall_mem_cons.mp h
    rw [laterSteps?, if_neg hHead.ne_anyFolders, if_neg hHead.ne_star,
      globSteps?_of_literal hHead.literal, ih hTail]
    simp

theorem intercalate_cons_eq_flatMap (segment : Segment) (segments : List Segment) :
    ['/'].intercalate (segment :: segments) = segment ++ segments.flatMap fun s => '/' :: s := by
  induction segments generalizing segment with
  | nil => simp
  | cons next segments ih => rw [List.intercalate_cons_cons, ih, List.flatMap_cons]; simp

theorem patternSteps?_of_plain (h : ∀ s ∈ segments, PlainSegment s) (hNonempty : segments ≠ []) :
    patternSteps? false segments = some ((['/'].intercalate segments).map Step.char, .anywhere) := by
  cases segments with
  | nil => exact absurd rfl hNonempty
  | cons segment segments =>
    obtain ⟨hHead, hTail⟩ := List.forall_mem_cons.mp h
    rw [patternSteps?, if_neg hHead.ne_anyFolders, laterSteps?, if_neg hHead.ne_anyFolders,
      if_neg hHead.ne_star, globSteps?_of_literal hHead.literal, laterSteps?_of_plain hTail,
      intercalate_cons_eq_flatMap]
    simp

theorem opened_of_plain (h : ∀ s ∈ segments, PlainSegment s) : opened segments = segments := by
  induction segments with
  | nil => rfl
  | cons segment segments ih =>
    obtain ⟨hHead, hTail⟩ := List.forall_mem_cons.mp h
    rw [opened, ih hTail]
    rintro rfl rfl
    exact hHead.nonempty rfl

theorem collapsed_of_plain (h : ∀ s ∈ segments, PlainSegment s) : collapsed segments = segments := by
  induction segments with
  | nil => rfl
  | cons segment segments ih =>
    obtain ⟨hHead, hTail⟩ := List.forall_mem_cons.mp h
    rw [collapsed, ih hTail]
    simp [hHead.ne_anyFolders]

theorem anchored_of_plain (h : ∀ s ∈ segments, PlainSegment s) (hSeveral : 2 ≤ segments.length) :
    anchored segments = segments := by
  unfold anchored
  split
  · exact absurd rfl (h _ List.mem_cons_self).nonempty
  · simp at hSeveral
  · exact absurd rfl (h _ (List.mem_cons_of_mem _ List.mem_cons_self)).nonempty
  · rfl

theorem shape?_of_plain (h : ∀ s ∈ segments, PlainSegment s) (hSeveral : 2 ≤ segments.length) :
    shape? (['/'].intercalate segments) =
      some (.steps ((['/'].intercalate segments).map Step.char) .anywhere) := by
  have hNonempty : segments ≠ [] := by
    rintro rfl
    simp at hSeveral
  have hWritten : (['/'].intercalate segments).splitOn '/' = segments :=
    List.splitOn_intercalate '/' (fun s hMem => (h s hMem).whole) hNonempty
  have hFolderOnly : (segments.getLast? == some []) = false := by
    rw [beq_eq_false_iff_ne]
    exact fun hLast => (h _ (List.mem_of_getLast? hLast)).nonempty rfl
  have hStars : ∀ rest, segments ≠ ['*', '*'] :: rest := by
    rintro rest rfl
    exact (h _ List.mem_cons_self).ne_anyFolders rfl
  simp only [shape?, hWritten, hFolderOnly, anchored_of_plain h hSeveral, opened_of_plain h,
    collapsed_of_plain h]
  split
  · exact absurd rfl (hStars _)
  · exact absurd rfl (hStars _)
  · exact absurd rfl (hStars _)
  · rw [patternSteps?_of_plain h hNonempty]
    rfl

theorem pattern?_of_plain (h : ∀ s ∈ segments, PlainSegment s) (hSeveral : 2 ≤ segments.length)
    {line : List Char} (hLine : line = ['/'].intercalate segments)
    (hUnmarked : line.head? ≠ some '#' ∧ line.head? ≠ some '!')
    (hUnpadded : ∀ c, line.getLast? = some c → Text.isBlank c = false) :
    pattern? line = some ⟨false, .steps (line.map Step.char) .anywhere⟩ := by
  have hTrim : trimLine line = line := by
    rw [trimLine]
    split
    · rfl
    · rw [Text.dropEndWhile_eq_rdropWhile, List.rdropWhile_eq_self_iff]
      exact fun hNonempty => by simp [hUnpadded _ (List.getLast?_eq_getLast_of_ne_nil hNonempty)]
  have hShape : shape? line = some (.steps (line.map Step.char) .anywhere) := by
    rw [hLine]
    exact shape?_of_plain h hSeveral
  rw [pattern?, hTrim]
  split
  · cases hShape
  · simp at hUnmarked
  · cases hShape
  · simp at hUnmarked
  · rw [hShape]
    rfl

/-! ## Paths that a plain path hits -/

theorem hitSteps?_char_eq_some_iff (ending : Ending) (text path : List Char) (hit : Hit) :
    hitSteps? ending (text.map Step.char) path = some hit ↔
      ∃ rest, path = text ++ rest ∧ ending.hit? rest = some hit := by
  induction text generalizing path with
  | nil => simp [hitSteps?]
  | cons c text ih =>
    cases path with
    | nil => simp [hitSteps?, Step.rests]
    | cons d path =>
      by_cases hSame : c = d
      · simp [hitSteps?, Step.rests, hSame, ih]
      · simp [hitSteps?, Step.rests, hSame, Ne.symm hSame]

/-- Where a plain path hits: at itself, with or without a line feed, and below itself. -/
theorem Ending.hit?_anywhere_eq_some_iff (rest : List Char) (hit : Hit) :
    Ending.anywhere.hit? rest = some hit ↔
      (hit = .itself ∧ (rest = [] ∨ rest = ['\n'])) ∨ (hit = .above ∧ ∃ below, rest = '/' :: below) := by
  unfold Ending.hit?
  split <;> simp_all [eq_comm]

/-! ## Several patterns -/

variable {before after : List Pattern} {p : Pattern} {path : List Char}

theorem ignores_append_cons_of_none (h : p.shape.hit? path = none) :
    ignores (before ++ p :: after) path = ignores (before ++ after) path := by
  simp [ignores, h]

/-- What a pattern hits itself is ignored, unless a later one that hits it too is negated. -/
theorem ignores_append_cons_of_itself (hHit : p.shape.hit? path = some .itself)
    (hPositive : p.negated = false)
    (hKept : ∀ q ∈ after, q.negated = true → q.shape.hit? path ≠ some .itself) :
    ignores (before ++ p :: after) path = true := by
  have hLast : ∀ hit ∈ (after.filterMap fun q => (q.shape.hit? path).map fun hit => (hit, q)).filter
      (·.1 = Hit.itself), hit.2.negated = false := by
    intro hit hMem
    obtain ⟨hHits, hItself⟩ := List.mem_filter.mp hMem
    obtain ⟨q, hQ, hSome⟩ := List.mem_filterMap.mp hHits
    obtain ⟨kind, hKind, rfl⟩ := Option.map_eq_some_iff.mp hSome
    rw [decide_eq_true_eq] at hItself
    subst hItself
    exact Bool.eq_false_iff.mpr fun hNegated => hKept q hQ hNegated hKind
  simp only [ignores, lastHit?, List.filterMap_append, List.filterMap_cons, hHit, Option.map_some,
    List.filter_append, List.filter_cons, decide_true, if_true, List.getLast?_append_cons]
  cases hEnd : ((Hit.itself, p) :: (after.filterMap fun q =>
      (q.shape.hit? path).map fun hit => (hit, q)).filter (·.1 = Hit.itself)).getLast? with
  | none => simp at hEnd
  | some hit =>
    rcases List.mem_cons.mp (List.mem_of_getLast? hEnd) with rfl | hMem
    · simp [hPositive]
    · simp [hLast hit hMem]

end SwiftDerive.Ignore
