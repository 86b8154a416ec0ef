import SwiftDerive.Proofs.Entries
import SwiftDerive.Proofs.Json.Number
import SwiftDerive.Proofs.Json.Text

/-! # Values are read as they were written

Reading the text of a value gives the value again, however the text is laid out, when the value has
no floating-point number in it and no object that has a key twice. Every step of the reader takes at
least one character, so the length of the text bounds the steps that are needed.
-/

namespace SwiftDerive.Json

set_option autoImplicit false

mutual

/-- No number in the value is a floating-point number, and no object has a key twice. -/
def Regular : Json → Prop
  | .float _ => False
  | .array items => RegularAll items
  | .object entries => DistinctKeys entries ∧ RegularEntries entries
  | .null | .bool _ | .int _ | .string _ => True

def RegularAll : List Json → Prop
  | [] => True
  | item :: items => item.Regular ∧ RegularAll items

def RegularEntries : List (String × Json) → Prop
  | [] => True
  | (_, value) :: entries => value.Regular ∧ RegularEntries entries

end

theorem regularEntries_iff (entries : List (String × Json)) :
    RegularEntries entries ↔ ∀ key value, (key, value) ∈ entries → value.Regular := by
  induction entries with
  | nil => simp [RegularEntries]
  | cons entry entries ih =>
    rw [RegularEntries, ih]
    constructor
    · rintro ⟨hHead, hTail⟩ key value hMem
      rcases List.mem_cons.mp hMem with rfl | hMem
      · exact hHead
      · exact hTail key value hMem
    · intro h
      exact ⟨h entry.1 entry.2 List.mem_cons_self,
        fun key value hMem => h key value (List.mem_cons_of_mem _ hMem)⟩

/-! ## Gaps -/

def IsGapText (gap : List Char) : Prop :=
  ∀ c ∈ gap, isGap c = true

theorem isGapText_nil : IsGapText [] := by
  intro c h
  cases h

theorem isGapText_space : IsGapText [' '] := by
  intro c h
  cases List.mem_singleton.mp h
  rfl

theorem skipGap_append {gap : List Char} (h : IsGapText gap) (cs : List Char) :
    skipGap (gap ++ cs) = skipGap cs :=
  List.dropWhile_append_of_pos h

theorem skipGap_cons {c : Char} (h : isGap c = false) (cs : List Char) :
    skipGap (c :: cs) = c :: cs :=
  List.dropWhile_cons_of_neg (by simp [h])

theorem endsNumber_of_isGap {c : Char} (h : isGap c = true) (cs : List Char) :
    EndsNumber (c :: cs) := by
  simp only [isGap, Bool.or_eq_true, beq_iff_eq] at h
  rcases h with ((rfl | rfl) | rfl) | rfl <;>
    exact endsNumber_cons (by decide) (by decide) (by decide) (by decide) cs

theorem endsNumber_gap_append {gap cs : List Char} (h : IsGapText gap) (hEnds : EndsNumber cs) :
    EndsNumber (gap ++ cs) := by
  cases gap with
  | nil => exact hEnds
  | cons c gap => exact endsNumber_of_isGap (h c List.mem_cons_self) _

theorem isGapText_lineBreak (width depth : Nat) : IsGapText (lineBreak width depth).toList := by
  intro c h
  have hCases : c = '\n' ∨ c = ' ' := by
    have hMem : c = '\n' ∨ width * depth ≠ 0 ∧ c = ' ' := by
      simpa [lineBreak, List.mem_replicate] using h
    exact hMem.imp_right And.right
  rcases hCases with rfl | rfl <;> rfl

theorem toList_bracket : "[".toList = ['\x5b'] := by decide

theorem toList_closingBracket : "]".toList = ['\x5d'] := by decide

theorem toList_brace : "\x7b".toList = ['\x7b'] := by decide

theorem toList_closingBrace : "\x7d".toList = ['\x7d'] := by decide

theorem toList_enclose (indent : Option Nat) (depth : Nat) {opening closing : String} {first last : Char}
    (hOpening : opening.toList = [first]) (hClosing : closing.toList = [last])
    {items : List String} (h : items ≠ []) :
    ∃ before between behind, IsGapText before ∧ IsGapText between ∧ IsGapText behind ∧
      (enclose indent depth opening closing items).toList =
        first :: (before ++ ((',' :: between).intercalate (items.map String.toList) ++
          (behind ++ [last]))) := by
  obtain ⟨item, items, rfl⟩ := List.exists_cons_of_ne_nil h
  cases indent with
  | none =>
    exact ⟨[], [' '], [], isGapText_nil, isGapText_space, isGapText_nil,
      by simp [enclose, hOpening, hClosing]⟩
  | some width =>
    exact ⟨(lineBreak width (depth + 1)).toList, (lineBreak width (depth + 1)).toList,
      (lineBreak width depth).toList, isGapText_lineBreak _ _, isGapText_lineBreak _ _,
      isGapText_lineBreak _ _, by simp [enclose, hOpening, hClosing]⟩

/-! ## The first character -/

/-- A character that may stand first in a value: no blank, no closing bracket, no byte order
mark. -/
def StartsValue (c : Char) : Prop :=
  isGap c = false ∧ c ≠ '\x5d' ∧ c ≠ '\uFEFF'

instance (c : Char) : Decidable (StartsValue c) :=
  inferInstanceAs (Decidable (_ ∧ _ ∧ _))

theorem startsValue_of_isDigit {c : Char} (h : c.isDigit = true) : StartsValue c := by
  refine ⟨?_, ?_, ?_⟩
  · cases hGap : isGap c with
    | false => rfl
    | true => exact absurd h (by simp [(endsNumber_of_isGap hGap [] c rfl).1])
  · rintro rfl
    exact absurd h (by decide)
  · rintro rfl
    exact absurd h (by decide)

theorem toList_int_eq_cons (n : Int) :
    ∃ c cs, (toString n).toList = c :: cs ∧ (c.isDigit = true ∨ c = '-') := by
  rw [Int.toString_eq_repr, Int.repr_eq_if]
  split
  · obtain ⟨d, ds, hDigits⟩ :=
      List.exists_cons_of_ne_nil (Nat.toDigits_ne_nil (n := n.toNat) (b := 10))
    have hDigit := isDigit_toDigits d (hDigits ▸ List.mem_cons_self)
    exact ⟨d, ds, by rw [Nat.toList_repr, hDigits], .inl hDigit⟩
  · exact ⟨'-', (-n).toNat.repr.toList, by simp, .inr rfl⟩

theorem toList_enclose_cons (indent : Option Nat) (depth : Nat) {opening closing : String}
    {first last : Char} (hOpening : opening.toList = [first]) (hClosing : closing.toList = [last])
    (items : List String) :
    ∃ cs, (enclose indent depth opening closing items).toList = first :: cs := by
  cases items with
  | nil => exact ⟨[last], by simp [enclose, hOpening, hClosing]⟩
  | cons item items =>
    obtain ⟨before, between, behind, _, _, _, hText⟩ :=
      toList_enclose indent depth hOpening hClosing (List.cons_ne_nil item items)
    exact ⟨_, hText⟩

theorem startsValue_write {v : Json} (h : v.Regular) (indent : Option Nat) (depth : Nat) :
    ∃ c cs, (v.write indent depth).toList = c :: cs ∧ StartsValue c := by
  cases v with
  | null => exact ⟨'n', ['u', 'l', 'l'], by simp [write], by decide⟩
  | bool value =>
    cases value with
    | true => exact ⟨'t', ['r', 'u', 'e'], by simp [write], by decide⟩
    | false => exact ⟨'f', ['a', 'l', 's', 'e'], by simp [write], by decide⟩
  | int n =>
    obtain ⟨c, cs, hText, hFirst⟩ := toList_int_eq_cons n
    refine ⟨c, cs, by rw [write, hText], ?_⟩
    rcases hFirst with hDigit | rfl
    · exact startsValue_of_isDigit hDigit
    · decide
  | float x => exact absurd h (by simp [Regular])
  | string s => exact ⟨'\x22', _, by rw [write, toList_textOf], by decide⟩
  | array items =>
    obtain ⟨cs, hText⟩ := toList_enclose_cons indent depth toList_bracket toList_closingBracket
      (writeAll indent (depth + 1) items)
    exact ⟨'\x5b', cs, by rw [write, hText], by decide⟩
  | object entries =>
    obtain ⟨cs, hText⟩ := toList_enclose_cons indent depth toList_brace toList_closingBrace
      (writeEntries indent (depth + 1) entries)
    exact ⟨'\x7b', cs, by rw [write, hText], by decide⟩

theorem skipGap_write {v : Json} (h : v.Regular) (indent : Option Nat) (depth : Nat)
    (rest : List Char) :
    skipGap ((v.write indent depth).toList ++ rest) = (v.write indent depth).toList ++ rest := by
  obtain ⟨c, cs, hText, hStarts⟩ := startsValue_write h indent depth
  rw [hText, List.cons_append, skipGap_cons hStarts.1]

/-! ## Values -/

/-- The number of steps that is left after a step is enough for what is left of the text. -/
theorem exists_step {n steps : Nat} (h : n + 1 ≤ steps) : ∃ left, steps = left + 1 ∧ n ≤ left :=
  ⟨steps - 1, by omega, by omega⟩

theorem readValue_scalar {c : Char} (hQuote : c ≠ '\x22') (hBracket : c ≠ '\x5b')
    (hBrace : c ≠ '\x7b') (steps : Nat) (cs : List Char) :
    readValue (steps + 1) (c :: cs) = readScalar (c :: cs) := by
  rw [readValue]
  · exact fun _ h => hQuote (List.cons.inj h).1
  · exact fun _ h => hBracket (List.cons.inj h).1
  · exact fun _ h => hBrace (List.cons.inj h).1

theorem readValue_array (steps : Nat) {c : Char} (hStarts : StartsValue c) {gap : List Char}
    (hGap : IsGapText gap) (cs : List Char) :
    readValue (steps + 1) ('\x5b' :: (gap ++ c :: cs)) =
      (readItems steps (c :: cs)).map fun (items, rest) => (.array items, rest) := by
  rw [readValue, skipGap_append hGap, skipGap_cons hStarts.1]
  split
  · next hClosed => exact absurd (List.cons.inj hClosed).1 hStarts.2.1
  · cases readItems steps (c :: cs) <;> rfl

theorem readValue_object (steps : Nat) {gap : List Char} (hGap : IsGapText gap) (cs : List Char) :
    readValue (steps + 1) ('\x7b' :: (gap ++ '\x22' :: cs)) =
      (readEntries steps ('\x22' :: cs)).map fun (entries, rest) =>
        (.object (mergeEntries entries), rest) := by
  rw [readValue, skipGap_append hGap, skipGap_cons rfl]
  split
  · next hClosed => exact absurd (List.cons.inj hClosed).1 (by decide)
  · cases readEntries steps ('\x22' :: cs) <;> rfl

theorem readItems_last {steps : Nat} {item : Json} {text gap rest : List Char}
    (hItem : readValue steps (text ++ (gap ++ '\x5d' :: rest)) = .ok (item, gap ++ '\x5d' :: rest))
    (hGap : IsGapText gap) :
    readItems (steps + 1) (text ++ (gap ++ '\x5d' :: rest)) = .ok ([item], rest) := by
  rw [readItems, hItem]
  simp only [skipGap_append hGap, skipGap_cons (c := '\x5d') rfl]

theorem readItems_comma {steps : Nat} {item : Json} {text gap rest : List Char}
    (hItem : readValue steps (text ++ ',' :: (gap ++ rest)) = .ok (item, ',' :: (gap ++ rest)))
    (hGap : IsGapText gap) (hRest : skipGap rest = rest) :
    readItems (steps + 1) (text ++ ',' :: (gap ++ rest)) =
      (readItems steps rest).map fun (items, rest) => (item :: items, rest) := by
  rw [readItems, hItem]
  simp only [skipGap_cons (c := ',') rfl, skipGap_append hGap, hRest]
  cases readItems steps rest <;> rfl

def entryText (indent : Option Nat) (depth : Nat) (key : String) (value : Json) : List Char :=
  '\x22' :: (key.toList.flatMap charText ++ '\x22' :: ':' :: ' ' :: (value.write indent depth).toList)

theorem toList_writtenEntry (indent : Option Nat) (depth : Nat) (key : String) (value : Json) :
    (textOf key ++ ": " ++ value.write indent depth).toList = entryText indent depth key value := by
  simp [toList_textOf, entryText]

theorem length_le_entryText (indent : Option Nat) (depth : Nat) (key : String) (value : Json) :
    (value.write indent depth).toList.length ≤ (entryText indent depth key value).length := by
  simp only [entryText, List.length_cons, List.length_append]
  omega

def readBehindEntry (steps : Nat) (key : String) (value : Json) (tail : List Char) :
    Reading (List (String × Json)) :=
  match skipGap tail with
  | '\x7d' :: rest => .ok ([(key, value)], rest)
  | ',' :: rest =>
    match readEntries steps (skipGap rest) with
    | .ok (entries, rest) => .ok ((key, value) :: entries, rest)
    | .error e => .error e
  | rest => .error ⟨.comma, rest.length⟩

theorem readEntries_entry {steps depth : Nat} {indent : Option Nat} {key : String} {value : Json}
    {tail : List Char} (hRegular : value.Regular)
    (hValue : readValue steps ((value.write indent depth).toList ++ tail) = .ok (value, tail)) :
    readEntries (steps + 1) (entryText indent depth key value ++ tail) =
      readBehindEntry steps key value tail := by
  rw [entryText, List.cons_append, readEntries, List.append_assoc, List.cons_append,
    readText_written]
  simp only [List.cons_append, skipGap_cons (c := ':') rfl]
  rw [← List.singleton_append, skipGap_append isGapText_space, skipGap_write hRegular, hValue]
  rfl

theorem readEntries_last {steps depth : Nat} {indent : Option Nat} {key : String} {value : Json}
    {gap rest : List Char} (hRegular : value.Regular)
    (hValue : readValue steps ((value.write indent depth).toList ++ (gap ++ '\x7d' :: rest)) =
      .ok (value, gap ++ '\x7d' :: rest)) (hGap : IsGapText gap) :
    readEntries (steps + 1) (entryText indent depth key value ++ (gap ++ '\x7d' :: rest)) =
      .ok ([(key, value)], rest) := by
  rw [readEntries_entry hRegular hValue, readBehindEntry]
  simp only [skipGap_append hGap, skipGap_cons (c := '\x7d') rfl]

theorem readEntries_comma {steps depth : Nat} {indent : Option Nat} {key : String} {value : Json}
    {gap rest : List Char} (hRegular : value.Regular)
    (hValue : readValue steps ((value.write indent depth).toList ++ ',' :: (gap ++ rest)) =
      .ok (value, ',' :: (gap ++ rest))) (hGap : IsGapText gap) (hRest : skipGap rest = rest) :
    readEntries (steps + 1) (entryText indent depth key value ++ ',' :: (gap ++ rest)) =
      (readEntries steps rest).map fun (entries, rest) => ((key, value) :: entries, rest) := by
  rw [readEntries_entry hRegular hValue, readBehindEntry]
  simp only [skipGap_cons (c := ',') rfl, skipGap_append hGap, hRest]
  cases readEntries steps rest <;> rfl

theorem endsNumber_comma (rest : List Char) : EndsNumber (',' :: rest) :=
  endsNumber_cons (by decide) (by decide) (by decide) (by decide) rest

mutual

/-- A value is read back from its text, and what follows is left, unless it goes on with a
number. -/
theorem readValue_write : (v : Json) → v.Regular → ∀ (indent : Option Nat) (depth steps : Nat)
    (rest : List Char), (v.write indent depth).toList.length ≤ steps → EndsNumber rest →
    readValue steps ((v.write indent depth).toList ++ rest) = .ok (v, rest)
  | .null => by
    intro _ indent depth steps rest hSteps _
    obtain ⟨left, rfl, _⟩ := exists_step (n := 3) (by simpa [write] using hSteps)
    simp only [write]
    exact readValue_scalar (by decide) (by decide) (by decide) left _
  | .bool true => by
    intro _ indent depth steps rest hSteps _
    obtain ⟨left, rfl, _⟩ := exists_step (n := 3) (by simpa [write] using hSteps)
    simp only [write]
    exact readValue_scalar (by decide) (by decide) (by decide) left _
  | .bool false => by
    intro _ indent depth steps rest hSteps _
    obtain ⟨left, rfl, _⟩ := exists_step (n := 4) (by simpa [write] using hSteps)
    simp only [write]
    exact readValue_scalar (by decide) (by decide) (by decide) left _
  | .int n => by
    intro _ indent depth steps rest hSteps hEnds
    rw [write] at hSteps ⊢
    obtain ⟨c, cs, hText, hFirst⟩ := toList_int_eq_cons n
    rw [hText, List.length_cons] at hSteps
    obtain ⟨left, rfl, _⟩ := exists_step hSteps
    have hRead := readScalar_int n hEnds
    rw [hText, List.cons_append] at hRead ⊢
    have hOther : ∀ d : Char, d.isDigit = false → d ≠ '-' → c ≠ d := by
      rintro d hNo hMinus rfl
      simp [hNo, hMinus] at hFirst
    rw [readValue_scalar (hOther _ (by decide) (by decide)) (hOther _ (by decide) (by decide))
      (hOther _ (by decide) (by decide)), hRead]
  | .float _ => fun hRegular => absurd hRegular (by simp [Regular])
  | .string s => by
    intro _ indent depth steps rest hSteps _
    rw [write, toList_textOf] at hSteps ⊢
    obtain ⟨left, rfl, _⟩ := exists_step hSteps
    rw [List.cons_append, readValue, List.append_assoc, List.singleton_append, readText_written]
  | .array [] => by
    intro _ indent depth steps rest hSteps _
    obtain ⟨left, rfl, _⟩ := exists_step (n := 1) (by simpa [write, writeAll, enclose] using hSteps)
    simp [write, writeAll, enclose, readValue, skipGap_cons (c := '\x5d') rfl]
  | .array (item :: items) => by
    intro hRegular indent depth steps rest hSteps _
    obtain ⟨before, between, behind, hBefore, hBetween, hBehind, hText⟩ :=
      toList_enclose indent depth toList_bracket toList_closingBracket
        (List.cons_ne_nil (item.write indent (depth + 1)) (writeAll indent (depth + 1) items))
    obtain ⟨c, cs, hItem, hStarts⟩ := startsValue_write hRegular.1 indent (depth + 1)
    have hItems := readItems_write (item :: items) (List.cons_ne_nil _ _) hRegular indent (depth + 1)
    rw [write, writeAll, hText] at hSteps ⊢
    simp only [writeAll, List.map_cons, hItem, List.intercalate_cons_cons_left, List.cons_append,
      List.append_assoc, List.nil_append, List.length_append, List.length_cons] at hItems hSteps ⊢
    obtain ⟨left, rfl, hLeft⟩ := exists_step hSteps
    rw [readValue_array left hStarts hBefore,
      hItems left between behind rest hBetween hBehind (by omega)]
    rfl
  | .object [] => by
    intro _ indent depth steps rest hSteps _
    obtain ⟨left, rfl, _⟩ :=
      exists_step (n := 1) (by simpa [write, writeEntries, enclose] using hSteps)
    simp [write, writeEntries, enclose, readValue, skipGap_cons (c := '\x7d') rfl]
  | .object ((key, value) :: entries) => by
    intro hRegular indent depth steps rest hSteps _
    obtain ⟨before, between, behind, hBefore, hBetween, hBehind, hText⟩ :=
      toList_enclose indent depth toList_brace toList_closingBrace
        (List.cons_ne_nil (textOf key ++ ": " ++ value.write indent (depth + 1))
          (writeEntries indent (depth + 1) entries))
    have hEntries := readEntries_write ((key, value) :: entries) (List.cons_ne_nil _ _) hRegular.2
      indent (depth + 1)
    rw [write, writeEntries, hText] at hSteps ⊢
    simp only [writeEntries, List.map_cons, toList_writtenEntry, entryText,
      List.intercalate_cons_cons_left, List.cons_append, List.append_assoc, List.nil_append,
      List.length_append, List.length_cons] at hEntries hSteps ⊢
    obtain ⟨left, rfl, hLeft⟩ := exists_step hSteps
    rw [readValue_object left hBefore,
      hEntries left between behind rest hBetween hBehind (by omega)]
    simp only [Except.map, mergeEntries_of_distinct hRegular.1]

theorem readItems_write : (items : List Json) → items ≠ [] → RegularAll items →
    ∀ (indent : Option Nat) (depth steps : Nat) (between behind rest : List Char),
    IsGapText between → IsGapText behind →
    ((',' :: between).intercalate
      ((writeAll indent depth items).map String.toList)).length < steps →
    readItems steps ((',' :: between).intercalate
      ((writeAll indent depth items).map String.toList) ++ (behind ++ '\x5d' :: rest)) =
      .ok (items, rest)
  | [] => fun hNe => absurd rfl hNe
  | [item] => by
    intro _ hItems indent depth steps between behind rest _ hBehind hSteps
    simp only [writeAll, List.map_cons, List.map_nil, List.intercalate_singleton] at hSteps ⊢
    obtain ⟨left, rfl, hLeft⟩ := exists_step hSteps
    have hEnds : EndsNumber (behind ++ '\x5d' :: rest) :=
      endsNumber_gap_append hBehind
        (endsNumber_cons (by decide) (by decide) (by decide) (by decide) rest)
    exact readItems_last (readValue_write item hItems.1 indent depth left _ hLeft hEnds) hBehind
  | item :: next :: items => by
    intro _ hItems indent depth steps between behind rest hBetween hBehind hSteps
    have hNext := readItems_write (next :: items) (List.cons_ne_nil _ _) hItems.2 indent depth
    obtain ⟨c, cs, hText, hStarts⟩ := startsValue_write hItems.2.1 indent depth
    simp only [writeAll, List.map_cons, List.intercalate_cons_cons, List.append_assoc,
      List.length_append, List.cons_append, List.length_cons] at hSteps hNext ⊢
    obtain ⟨left, rfl, hLeft⟩ := exists_step hSteps
    rw [readItems_comma
      (readValue_write item hItems.1 indent depth left _ (by omega) (endsNumber_comma _)) hBetween,
      hNext left between behind rest hBetween hBehind (by omega)]
    · rfl
    · rw [hText, List.intercalate_cons_cons_left, List.cons_append, skipGap_cons hStarts.1]

theorem readEntries_write : (entries : List (String × Json)) → entries ≠ [] →
    RegularEntries entries → ∀ (indent : Option Nat) (depth steps : Nat)
    (between behind rest : List Char), IsGapText between → IsGapText behind →
    ((',' :: between).intercalate
      ((writeEntries indent depth entries).map String.toList)).length < steps →
    readEntries steps ((',' :: between).intercalate
      ((writeEntries indent depth entries).map String.toList) ++ (behind ++ '\x7d' :: rest)) =
      .ok (entries, rest)
  | [] => fun hNe => absurd rfl hNe
  | [(key, value)] => by
    intro _ hEntries indent depth steps between behind rest _ hBehind hSteps
    simp only [writeEntries, List.map_cons, List.map_nil, List.intercalate_singleton,
      toList_writtenEntry] at hSteps ⊢
    obtain ⟨left, rfl, hLeft⟩ := exists_step hSteps
    have hEnds : EndsNumber (behind ++ '\x7d' :: rest) :=
      endsNumber_gap_append hBehind
        (endsNumber_cons (by decide) (by decide) (by decide) (by decide) rest)
    have hLength := length_le_entryText indent depth key value
    exact readEntries_last hEntries.1
      (readValue_write value hEntries.1 indent depth left _ (by omega) hEnds) hBehind
  | (key, value) :: next :: entries => by
    intro _ hEntries indent depth steps between behind rest hBetween hBehind hSteps
    have hNext := readEntries_write (next :: entries) (List.cons_ne_nil _ _) hEntries.2 indent depth
    obtain ⟨key', value'⟩ := next
    have hLength := length_le_entryText indent depth key value
    simp only [writeEntries, List.map_cons, List.intercalate_cons_cons, List.append_assoc,
      toList_writtenEntry, List.length_append, List.cons_append, List.length_cons] at hSteps hNext ⊢
    obtain ⟨left, rfl, hLeft⟩ := exists_step hSteps
    rw [readEntries_comma hEntries.1
      (readValue_write value hEntries.1 indent depth left _ (by omega) (endsNumber_comma _))
      hBetween, hNext left between behind rest hBetween hBehind (by omega)]
    · rfl
    · rw [entryText, List.intercalate_cons_cons_left, List.cons_append,
        skipGap_cons (c := '\x22') rfl]

end

theorem readChars_write {v : Json} (h : v.Regular) (indent : Option Nat) (depth : Nat) :
    readChars (v.write indent depth).toList = .ok v := by
  have hSkip := skipGap_write h indent depth []
  have hRead := readValue_write v h indent depth (2 * (v.write indent depth).toList.length + 2) []
    (by omega) endsNumber_nil
  obtain ⟨c, cs, hText, hStarts⟩ := startsValue_write h indent depth
  have hMark : (v.write indent depth).toList.head? ≠ some '\uFEFF' := by
    rw [hText, List.head?_cons, Ne, Option.some.injEq]
    exact hStarts.2.2
  rw [List.append_nil] at hSkip hRead
  rw [readChars, if_neg hMark, hSkip, hRead]
  rfl

/-- The text of a regular value spells the value, in every layout. -/
theorem read_write {v : Json} (h : v.Regular) (indent : Option Nat) (depth : Nat) :
    read (v.write indent depth) = .ok v := by
  rw [read, readChars_write h]

end SwiftDerive.Json
