import SwiftDerive.Proofs.Lists
import SwiftDerive.Proofs.Mock.SlotSearch
import SwiftDerive.Unicode.Digit

/-! # The spelling of slot names

Labels and numbers are put behind a name as it is written, while backticks are trimmed at the two
ends alone. A slot that does not keep the name of its member is then spelled well exactly if nothing
that its name is made of stands in backticks.
-/

namespace SwiftDerive.Mock

set_option autoImplicit false

def isBare : List Char → Bool
  | [] => false
  | c :: rest => !Unicode.isDecimalDigit c && (c :: rest).all Unicode.isWord

def IsQuoted (cs : List Char) : Prop :=
  ∃ inner, isBare inner = true ∧ cs = '\x60' :: (inner ++ ['\x60'])

def IsName (name : String) : Prop := isBare name.toList = true ∨ IsQuoted name.toList

instance (cs : List Char) : Decidable (IsQuoted cs) :=
  decidable_of_iff (isBare cs.tail.dropLast = true ∧ cs = '\x60' :: (cs.tail.dropLast ++ ['\x60']))
    ⟨fun h => ⟨_, h⟩, by
      rintro ⟨inner, hInner, rfl⟩
      simpa using hInner⟩

instance (name : String) : Decidable (IsName name) :=
  inferInstanceAs (Decidable (_ ∨ _))

def labelsOf : Signature → List String
  | .function s => s.parameters.filterMap (·.label)
  | .property _ => []

def addedLabels (signatures : List Signature) (s : Signature) : List String :=
  if isOverloaded signatures s.name then labelsOf s else []

def labelText (labels : List String) : List Char :=
  labels.flatMap fun label => (Text.capitalized label).toList

def numberText : Nat → List Char
  | 0 => []
  | k + 1 => Nat.toDigits 10 (k + 2)

def addedText (labels : List String) (k : Nat) : List Char :=
  labelText labels ++ numberText k

/-! ## Names and backticks -/

set_option maxRecDepth 20000 in
theorem ne_backtick_of_isWord {c : Char} (h : Unicode.isWord c = true) : c ≠ '\x60' := by
  rintro rfl
  exact absurd h (by decide)

theorem isBare_iff (cs : List Char) :
    isBare cs = true ↔
      (∃ c rest, cs = c :: rest ∧ Unicode.isDecimalDigit c = false) ∧
        ∀ c ∈ cs, Unicode.isWord c = true := by
  cases cs with
  | nil => simp [isBare]
  | cons c rest => simp [isBare]

theorem backtick_notMem_of_isBare {cs : List Char} (h : isBare cs = true) : '\x60' ∉ cs :=
  fun hMem => ne_backtick_of_isWord (((isBare_iff cs).mp h).2 _ hMem) rfl

theorem exists_mem_of_isBare {cs : List Char} (h : isBare cs = true) : ∃ c ∈ cs, c ≠ '\x60' := by
  obtain ⟨⟨c, rest, rfl, _⟩, _⟩ := (isBare_iff cs).mp h
  refine ⟨c, List.mem_cons_self, ?_⟩
  rintro rfl
  exact backtick_notMem_of_isBare h List.mem_cons_self

theorem isBare_append_iff {cs : List Char} (h : isBare cs = true) (ds : List Char) :
    isBare (cs ++ ds) = true ↔ ∀ d ∈ ds, Unicode.isWord d = true := by
  obtain ⟨⟨c, rest, rfl, hDigit⟩, hWord⟩ := (isBare_iff cs).mp h
  rw [isBare_iff, List.forall_mem_append, and_iff_right hWord, and_iff_right_iff_imp]
  exact fun _ => ⟨c, rest ++ ds, rfl, hDigit⟩

theorem isName_append_iff {name : String} (hName : IsName name) {added : List Char}
    (hSome : added ≠ []) :
    IsName (name ++ String.ofList added) ↔
      isBare name.toList = true ∧ ∀ c ∈ added, Unicode.isWord c = true := by
  rw [IsName, String.toList_append, String.toList_ofList]
  rcases hName with hBare | ⟨inner, hInner, hQuoted⟩
  · rw [isBare_append_iff hBare, and_iff_right hBare, or_iff_left]
    rintro ⟨_, _, hSame⟩
    obtain ⟨⟨c, rest, hCons, _⟩, _⟩ := (isBare_iff _).mp hBare
    rw [hCons, List.cons_append, List.cons.injEq] at hSame
    rw [hCons, hSame.1] at hBare
    exact backtick_notMem_of_isBare hBare List.mem_cons_self
  · have hNotBare : ∀ rest, isBare ('\x60' :: rest) ≠ true :=
      fun rest h => backtick_notMem_of_isBare h List.mem_cons_self
    rw [hQuoted, List.cons_append, iff_false_right fun h => hNotBare _ h.1]
    rintro (hBare | ⟨inner', hInner', hSame⟩)
    · exact hNotBare _ hBare
    · -- The quote that closes the name would stand inside the longer word.
      obtain ⟨init, last, rfl⟩ := List.eq_nil_or_concat added |>.resolve_left hSome
      rw [List.concat_eq_append, List.cons.injEq, ← List.append_assoc] at hSame
      obtain ⟨hWord, _⟩ := List.append_inj' hSame.2 rfl
      apply backtick_notMem_of_isBare hInner'
      simp [← hWord]

/-! ## Trimming -/

theorem mem_of_mem_dropEndWhile {α : Type} {p : α → Bool} {items : List α} {a : α}
    (h : a ∈ Text.dropEndWhile p items) : a ∈ items :=
  List.mem_reverse.mp ((List.dropWhile_sublist p).subset (List.mem_reverse.mp h))

theorem mem_of_mem_plainName {name : String} {c : Char}
    (h : c ∈ (Text.plainName name).toList) : c ∈ name.toList := by
  rw [Text.plainName, String.toList_ofList] at h
  exact (List.dropWhile_sublist _).subset (mem_of_mem_dropEndWhile h)

theorem backtick_mem_plainName {name : String} (before after : List Char)
    (hName : name.toList = before ++ '\x60' :: after) (hBefore : ∃ c ∈ before, c ≠ '\x60')
    (hAfter : ∃ c ∈ after, c ≠ '\x60') : '\x60' ∈ (Text.plainName name).toList := by
  have hFront : ∃ c ∈ before, (c == '\x60') = false := by simpa using hBefore
  have hBack : ∃ c ∈ after.reverse, (c == '\x60') = false := by simpa using hAfter
  rw [Text.plainName, String.toList_ofList, hName, dropWhile_append_of_exists hFront,
    Text.dropEndWhile, List.reverse_append, List.reverse_cons, List.append_assoc,
    dropWhile_append_of_exists hBack]
  simp

theorem backtick_notMem_plainName {name : String} (h : IsName name) :
    '\x60' ∉ (Text.plainName name).toList := by
  rw [Text.plainName, String.toList_ofList]
  intro hMem
  rcases h with hBare | ⟨inner, hInner, hQuoted⟩
  · exact backtick_notMem_of_isBare hBare
      ((List.dropWhile_sublist _).subset (mem_of_mem_dropEndWhile hMem))
  · have hFront : ∃ c ∈ inner, (c == '\x60') = false := by
      simpa using exists_mem_of_isBare hInner
    rw [hQuoted, List.dropWhile_cons_of_pos (by rfl), dropWhile_append_of_exists hFront,
      Text.dropEndWhile, List.reverse_append, List.reverse_singleton, List.singleton_append,
      List.dropWhile_cons_of_pos (by rfl)] at hMem
    have hInside := (List.dropWhile_sublist _).subset (mem_of_mem_dropEndWhile hMem)
    exact backtick_notMem_of_isBare hInner hInside

/-! ## Capitals -/

set_option maxRecDepth 20000 in
theorem longCapitals_notMem_backtick :
    ∀ entry ∈ Unicode.longCapitals, entry.2 ≠ [] ∧ '\x60' ∉ entry.2.map Char.ofNat := by
  decide

set_option maxRecDepth 20000 in
theorem caseRuns_avoid_backtick : ∀ run ∈ Unicode.caseRuns,
    ¬ (run.first + run.offset ≤ 96 ∧ 96 ≤ run.last + run.offset) := by
  decide

theorem capital_of_backtick : Unicode.capital '\x60' = ['\x60'] := by decide

theorem toNat_eq_of_ofNat {code : Nat} {c : Char} (h : c = Char.ofNat code)
    (hNull : c.toNat ≠ 0) : code = c.toNat := by
  subst h
  by_cases hValid : code.isValidChar
  · rw [Char.ofNat, dif_pos hValid]
    rfl
  · rw [Char.ofNat, dif_neg hValid] at hNull
    exact absurd rfl hNull

theorem capital_spec (c : Char) :
    Unicode.capital c ≠ [] ∧ (c ≠ '\x60' → '\x60' ∉ Unicode.capital c) := by
  unfold Unicode.capital
  split
  · next codes hLong =>
    obtain ⟨before, after, hEntries, _⟩ := List.lookup_eq_some_iff.mp hLong
    obtain ⟨hSome, hNone⟩ := longCapitals_notMem_backtick (c.toNat, codes) (by simp [hEntries])
    exact ⟨by simpa using hSome, fun _ => hNone⟩
  · split
    · next run hRun =>
      refine ⟨List.cons_ne_nil _ _, ?_⟩
      intro _ hMem
      have hCode : (c.toNat + run.offset).toNat = 96 :=
        toNat_eq_of_ofNat (List.mem_singleton.mp hMem) (by decide)
      have hBounds := caseRuns_avoid_backtick run (List.mem_of_find?_eq_some hRun)
      have hCovers := List.find?_some hRun
      simp only [Unicode.CaseRun.covers, Bool.and_eq_true, decide_eq_true_eq] at hCovers
      omega
    · exact ⟨List.cons_ne_nil _ _, fun hNe hMem => hNe (List.mem_singleton.mp hMem).symm⟩

theorem toList_capitalized_cons {label : String} {c : Char} {rest : List Char}
    (h : label.toList = c :: rest) :
    (Text.capitalized label).toList = Unicode.capital c ++ rest := by
  rw [Text.capitalized, h, String.toList_ofList]

theorem backtick_notMem_capitalized {label : String} (h : isBare label.toList = true) :
    '\x60' ∉ (Text.capitalized label).toList := by
  have hNone := backtick_notMem_of_isBare h
  obtain ⟨⟨c, rest, hCons, _⟩, _⟩ := (isBare_iff _).mp h
  rw [hCons, List.mem_cons, not_or] at hNone
  rw [toList_capitalized_cons hCons, List.mem_append, not_or]
  exact ⟨(capital_spec c).2 (Ne.symm hNone.1), hNone.2⟩

theorem capitalized_of_isQuoted {label : String} (h : IsQuoted label.toList) :
    (Text.capitalized label).toList = label.toList := by
  obtain ⟨inner, _, hQuoted⟩ := h
  rw [toList_capitalized_cons hQuoted, capital_of_backtick, hQuoted, List.singleton_append]

theorem exists_mem_capitalized {label : String} (h : IsName label) :
    ∃ c ∈ (Text.capitalized label).toList, c ≠ '\x60' := by
  rcases h with hBare | hQuoted
  · obtain ⟨⟨c, rest, hCons, _⟩, _⟩ := (isBare_iff _).mp hBare
    obtain ⟨d, hMem⟩ := List.exists_mem_of_ne_nil _ (capital_spec c).1
    have hCapital : d ∈ (Text.capitalized label).toList := by
      rw [toList_capitalized_cons hCons]
      exact List.mem_append_left _ hMem
    refine ⟨d, hCapital, ?_⟩
    rintro rfl
    exact backtick_notMem_capitalized hBare hCapital
  · obtain ⟨inner, hInner, hCons⟩ := hQuoted
    obtain ⟨d, hMem, hNe⟩ := exists_mem_of_isBare hInner
    refine ⟨d, ?_, hNe⟩
    rw [capitalized_of_isQuoted ⟨inner, hInner, hCons⟩, hCons]
    simp [hMem]

/-! ## What stands behind a name -/

theorem candidate_baseName (overloaded : Bool) (s : Signature) (k : Nat) :
    candidate (baseName overloaded s) k =
      s.name ++ String.ofList (addedText (if overloaded then labelsOf s else []) k) := by
  have hBase : (baseName overloaded s).toList =
      s.name.toList ++ labelText (if overloaded then labelsOf s else []) := by
    cases s with
    | property s => cases overloaded <;> simp [baseName, labelsOf, labelText, Signature.name]
    | function s =>
      cases overloaded <;>
        simp [baseName, labelsOf, labelText, Signature.name, String.toList_join, List.flatMap_map]
  apply String.toList_injective
  rw [String.toList_append, String.toList_ofList, addedText, ← List.append_assoc, ← hBase]
  cases k with
  | zero => rw [candidate, numberText, List.append_nil]
  | succ k =>
    rw [candidate, numberText, Nat.toString_eq_ofList_toDigits, String.toList_append,
      String.toList_ofList]

theorem exists_candidate_of_slot {overloaded : String → Bool} {taken : List String}
    {signatures : List Signature} {slot : Slot}
    (h : slot ∈ slotsFrom overloaded taken signatures) :
    slot.signature ∈ signatures ∧ ∃ k, slot.name =
      candidate (baseName (overloaded slot.signature.name) slot.signature) k := by
  induction signatures generalizing taken with
  | nil => cases h
  | cons s signatures ih =>
    rcases List.mem_cons.mp h with rfl | hTail
    · exact ⟨List.mem_cons_self, _, rfl⟩
    · obtain ⟨hMem, hName⟩ := ih hTail
      exact ⟨List.mem_cons_of_mem _ hMem, hName⟩

theorem mem_toDigits_of_mem_numberText {k : Nat} {c : Char} (h : c ∈ numberText k) :
    c ∈ Nat.toDigits 10 (k + 1) := by
  cases k with
  | zero => cases h
  | succ k => exact h

theorem isWord_of_mem_numberText {k : Nat} {c : Char} (h : c ∈ numberText k) :
    Unicode.isWord c = true := by
  have hDigit := Nat.isDigit_of_mem_toDigits (by decide) (by decide)
    (mem_toDigits_of_mem_numberText h)
  rw [Char.isDigit, Bool.and_eq_true, decide_eq_true_eq, decide_eq_true_eq] at hDigit
  refine List.any_eq_true.mpr ⟨(0x30, 0x39), List.mem_cons_self, ?_⟩
  rw [Bool.and_eq_true, decide_eq_true_eq, decide_eq_true_eq]
  exact hDigit

section Added

variable {labels : List String} {k : Nat}

theorem isWord_added_iff : (∀ c ∈ addedText labels k, Unicode.isWord c = true) ↔
    ∀ label ∈ labels, ∀ c ∈ (Text.capitalized label).toList, Unicode.isWord c = true := by
  rw [addedText, List.forall_mem_append, and_iff_left fun _ => isWord_of_mem_numberText]
  simp only [labelText, List.mem_flatMap]
  constructor
  · exact fun h label hLabel c hMem => h c ⟨label, hLabel, hMem⟩
  · rintro h c ⟨label, hLabel, hMem⟩
    exact h label hLabel c hMem

theorem backtick_notMem_added (hLabels : ∀ label ∈ labels, isBare label.toList = true) :
    '\x60' ∉ addedText labels k := by
  rw [addedText, List.mem_append, not_or]
  constructor
  · intro hMem
    obtain ⟨label, hLabel, hBacktick⟩ := List.mem_flatMap.mp hMem
    exact backtick_notMem_capitalized (hLabels label hLabel) hBacktick
  · exact fun hMem => ne_backtick_of_isWord (isWord_of_mem_numberText hMem) rfl

theorem exists_mem_added (hLabels : ∀ label ∈ labels, IsName label)
    (hSome : addedText labels k ≠ []) : ∃ c ∈ addedText labels k, c ≠ '\x60' := by
  cases labels with
  | nil =>
    obtain ⟨c, hMem⟩ := List.exists_mem_of_ne_nil _ hSome
    exact ⟨c, hMem, ne_backtick_of_isWord (isWord_of_mem_numberText hMem)⟩
  | cons label labels =>
    obtain ⟨c, hMem, hNe⟩ := exists_mem_capitalized (hLabels label List.mem_cons_self)
    exact ⟨c, by simp [addedText, labelText, hMem], hNe⟩

variable (k) in
theorem exists_backtick_of_isQuoted {label : String} (hLabel : label ∈ labels)
    (hQuoted : IsQuoted label.toList) : ∃ before after,
      addedText labels k = before ++ '\x60' :: after ∧ ∃ c ∈ after, c ≠ '\x60' := by
  obtain ⟨first, rest, rfl⟩ := List.append_of_mem hLabel
  have hCapital := capitalized_of_isQuoted hQuoted
  obtain ⟨inner, hInner, hCons⟩ := hQuoted
  obtain ⟨c, hMem, hNe⟩ := exists_mem_of_isBare hInner
  refine ⟨labelText first, inner ++ '\x60' :: addedText rest k, ?_, c, ?_, hNe⟩
  · simp [addedText, labelText, hCapital, hCons]
  · exact List.mem_append_left _ hMem

end Added

/-! ## The names and properties of slots -/

section Spelling

variable {name : String} {labels : List String} {k : Nat}

/-- Behind a quoted name, or in front of a quoted label, a backtick stays in the middle. -/
theorem backtick_notMem_plainName_iff (hName : IsName name)
    (hLabels : ∀ label ∈ labels, IsName label) (hSome : addedText labels k ≠ []) :
    '\x60' ∉ (Text.plainName (name ++ String.ofList (addedText labels k))).toList ↔
      isBare name.toList = true ∧ ∀ label ∈ labels, isBare label.toList = true := by
  constructor
  · intro hNone
    have hBare : isBare name.toList = true := by
      refine hName.resolve_right ?_
      rintro ⟨inner, hInner, hQuoted⟩
      refine hNone (backtick_mem_plainName ('\x60' :: inner) (addedText labels k) ?_ ?_
        (exists_mem_added hLabels hSome))
      · simp [hQuoted]
      · obtain ⟨c, hMem, hNe⟩ := exists_mem_of_isBare hInner
        exact ⟨c, List.mem_cons_of_mem _ hMem, hNe⟩
    refine ⟨hBare, ?_⟩
    intro label hLabel
    refine (hLabels label hLabel).resolve_right ?_
    intro hQuoted
    obtain ⟨before, after, hSplit, hAfter⟩ := exists_backtick_of_isQuoted k hLabel hQuoted
    obtain ⟨c, hMem, hNe⟩ := exists_mem_of_isBare hBare
    refine hNone (backtick_mem_plainName (name.toList ++ before) after ?_
      ⟨c, List.mem_append_left _ hMem, hNe⟩ hAfter)
    simp [hSplit]
  · rintro ⟨hBare, hPlain⟩ hMem
    have hText := mem_of_mem_plainName hMem
    rw [String.toList_append, String.toList_ofList, List.mem_append] at hText
    exact hText.elim (backtick_notMem_of_isBare hBare) (backtick_notMem_added hPlain)

end Spelling

/-- Where all names and labels are well spelled, so are the property and the name of a slot that keeps
the name of its member or has nothing quoted in its own, and only those. -/
theorem assignSlots_spelled_iff {signatures : List Signature}
    (hNames : ∀ s ∈ signatures, IsName s.name)
    (hLabels : ∀ s ∈ signatures, ∀ label ∈ labelsOf s, IsName label) :
    ∀ slot ∈ assignSlots signatures,
      ('\x60' ∉ slot.property.toList ↔ slot.name = slot.signature.name ∨
        isBare slot.signature.name.toList = true ∧
          ∀ label ∈ addedLabels signatures slot.signature, isBare label.toList = true) ∧
      (IsName slot.name ↔ slot.name = slot.signature.name ∨
        isBare slot.signature.name.toList = true ∧
          ∀ label ∈ addedLabels signatures slot.signature,
            ∀ c ∈ (Text.capitalized label).toList, Unicode.isWord c = true) := by
  intro slot hSlot
  obtain ⟨hMem, k, hCandidate⟩ := exists_candidate_of_slot hSlot
  have hName := hNames _ hMem
  have hAdded : ∀ label ∈ addedLabels signatures slot.signature, IsName label := by
    intro label hLabel
    unfold addedLabels at hLabel
    split at hLabel
    · exact hLabels _ hMem label hLabel
    · cases hLabel
  have hProperty : '\x60' ∉ slot.property.toList ↔
      '\x60' ∉ (Text.plainName slot.name).toList := by
    simp [Slot.property, String.toList_append]
  replace hCandidate : slot.name = slot.signature.name ++ String.ofList
      (addedText (addedLabels signatures slot.signature) k) :=
    hCandidate.trans (candidate_baseName _ _ k)
  rw [hProperty]
  by_cases hNone : addedText (addedLabels signatures slot.signature) k = []
  · have hOwn : slot.name = slot.signature.name := by simpa [hNone] using hCandidate
    rw [hOwn]
    exact ⟨iff_of_true (backtick_notMem_plainName hName) (.inl rfl), iff_of_true hName (.inl rfl)⟩
  · have hLonger : slot.name ≠ slot.signature.name := by
      rw [hCandidate, Ne, String.append_eq_left_iff]
      simpa using hNone
    rw [or_iff_right hLonger, or_iff_right hLonger, hCandidate]
    exact ⟨backtick_notMem_plainName_iff hName hAdded hNone,
      (isName_append_iff hName hNone).trans (and_congr_right fun _ => isWord_added_iff)⟩

def announcements : List Signature :=
  ["to", "by", "by"].map fun label =>
    .function (Signature.ofFunction ⟨"announce",
      [⟨label, .named "Event" [], some "event", false, none, []⟩], .empty, none, [], none, none, [], [],
      none⟩)

theorem assignSlots_spelled_iff_announce :
    (∀ s ∈ announcements, IsName s.name) ∧
      (∀ s ∈ announcements, ∀ label ∈ labelsOf s, IsName label) ∧
      ∀ slot ∈ assignSlots announcements, '\x60' ∉ slot.property.toList ∧ IsName slot.name := by
  have hNames : ∀ s ∈ announcements, IsName s.name := by decide
  have hLabels : ∀ s ∈ announcements, ∀ label ∈ labelsOf s, IsName label := by decide
  have hBare : ∀ slot ∈ assignSlots announcements, isBare slot.signature.name.toList = true ∧
      ∀ label ∈ addedLabels announcements slot.signature, isBare label.toList = true := by decide
  have hWords : ∀ slot ∈ assignSlots announcements,
      ∀ label ∈ addedLabels announcements slot.signature,
        (Text.capitalized label).toList.all Unicode.isWord = true := by decide
  refine ⟨hNames, hLabels, ?_⟩
  intro slot hSlot
  obtain ⟨hProperty, hName⟩ := assignSlots_spelled_iff hNames hLabels slot hSlot
  refine ⟨hProperty.mpr (.inr (hBare slot hSlot)), hName.mpr (.inr ⟨(hBare slot hSlot).1, ?_⟩)⟩
  exact fun label hLabel => List.all_eq_true.mp (hWords slot hSlot label hLabel)

/-! ## Names in backticks -/

/-- ``func `repeat`(_ count: Int)``, also with a text, and ``func run(`for` task: Task)``, also with
`in`. -/
def player : Decl :=
  .type ⟨.structType, "Player", [], [], none, [], [], none⟩
    [.function ⟨"\x60repeat\x60", [⟨"_", .named "Int" [], some "count", false, none, []⟩], .empty, none,
        [], none, none, [], [], none⟩,
      .function ⟨"\x60repeat\x60", [⟨"_", .named "String" [], some "text", false, none, []⟩], .empty,
        none, [], none, none, [], [], none⟩,
      .function ⟨"run", [⟨"\x60for\x60", .named "Task" [], some "task", false, none, []⟩], .empty,
        none, [], none, none, [], [], none⟩,
      .function ⟨"run", [⟨"\x60in\x60", .named "Queue" [], some "queue", false, none, []⟩], .empty,
        none, [], none, none, [], [], none⟩]

set_option maxRecDepth 20000 in
theorem slots_misspelled_player :
    ∃ dep, Dependency.ofDecl none player = .ok dep ∧
      (∀ slot ∈ dep.slots, IsName slot.signature.name ∧
        ∀ label ∈ labelsOf slot.signature, IsName label) ∧
      dep.slots.map (fun slot => (slot.name, slot.property)) =
        [("\x60repeat\x60", "_repeat"), ("\x60repeat\x602", "_repeat\x602"),
          ("run\x60for\x60", "_run\x60for"), ("run\x60in\x60", "_run\x60in")] ∧
      ∀ slot ∈ dep.slots.tail, ¬ IsName slot.name :=
  ⟨_, rfl, by decide, by decide, by decide⟩

end SwiftDerive.Mock
