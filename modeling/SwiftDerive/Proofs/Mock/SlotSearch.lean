import Mathlib.Data.List.Nodup
import Mathlib.Data.List.Perm.Subperm
import Mathlib.Data.List.TakeWhile
import SwiftDerive.Proofs.Mock.Dependency

/-! # The search for slot names ends

A slot takes the first name, of a list without end, that no slot before it has. Backticks aside
these names differ from each other, since the numbers behind them do, so that among one more than
are taken one is free. Each slot then has a name of its own.
-/

namespace SwiftDerive.Mock

set_option autoImplicit false

/-- The search, which has come to the number `k`, ends with this name. -/
inductive SearchEnds (taken : List String) (base : String) : Nat → String → Prop where
  | found {k : Nat} (hFree : Text.plainName (candidate base k) ∉ taken) :
      SearchEnds taken base k (candidate base k)
  | next {k : Nat} {name : String} (hTaken : Text.plainName (candidate base k) ∈ taken)
      (hRest : SearchEnds taken base (k + 1) name) : SearchEnds taken base k name

/-- One signature after the other gets the name with which its search ends, which is then taken. -/
inductive AssignmentEnds (overloaded : String → Bool) :
    List String → List Signature → List Slot → Prop where
  | nil (taken : List String) : AssignmentEnds overloaded taken [] []
  | cons {taken : List String} {s : Signature} {name : String} {signatures : List Signature}
      {slots : List Slot} (hSearch : SearchEnds taken (baseName (overloaded s.name) s) 0 name)
      (hRest : AssignmentEnds overloaded (Text.plainName name :: taken) signatures slots) :
      AssignmentEnds overloaded taken (s :: signatures) (⟨name, s⟩ :: slots)

def isOverloaded (signatures : List Signature) (name : String) : Bool :=
  (signatures.map Signature.name).count name > 1

/-! ## The names that are tried -/

theorem toList_plainName_append (base : String) {ending : List Char} (hSome : ending ≠ [])
    (hPlain : ∀ c ∈ ending, c ≠ '\x60') :
    (Text.plainName (base ++ String.ofList ending)).toList =
      base.toList.dropWhile (· == '\x60') ++ ending := by
  have hFront : (base.toList ++ ending).dropWhile (· == '\x60') =
      base.toList.dropWhile (· == '\x60') ++ ending := by
    rw [List.dropWhile_append]
    split
    · next hEmpty =>
      rw [List.isEmpty_iff.mp hEmpty, List.nil_append, List.dropWhile_eq_self_iff]
      intro hLength
      simpa using hPlain _ (List.getElem_mem hLength)
    · rfl
  have hBack : ∀ front : List Char,
      Text.dropEndWhile (· == '\x60') (front ++ ending) = front ++ ending := by
    intro front
    obtain ⟨init, last, rfl⟩ := List.eq_nil_or_concat ending |>.resolve_left hSome
    have hLast : (last == '\x60') = false := by simpa using hPlain last (by simp)
    simp [Text.dropEndWhile, hLast]
  rw [Text.plainName, String.toList_ofList, String.toList_append, String.toList_ofList, hFront,
    hBack]

theorem ne_backtick_of_mem_toDigits {n : Nat} {c : Char} (h : c ∈ Nat.toDigits 10 n) :
    c ≠ '\x60' := by
  rintro rfl
  have hDigit : '\x60'.isDigit = true := Nat.isDigit_of_mem_toDigits (by decide) (by decide) h
  exact absurd hDigit (by decide)

theorem toList_plainName_numbered (base : String) (k : Nat) :
    (Text.plainName (candidate base (k + 1))).toList =
      base.toList.dropWhile (· == '\x60') ++ Nat.toDigits 10 (k + 2) := by
  rw [candidate, Nat.toString_eq_ofList_toDigits]
  exact toList_plainName_append base Nat.toDigits_ne_nil fun _ => ne_backtick_of_mem_toDigits

theorem length_plainName_le (name : String) :
    (Text.plainName name).toList.length ≤ (name.toList.dropWhile (· == '\x60')).length := by
  rw [Text.plainName, String.toList_ofList, Text.dropEndWhile, List.length_reverse]
  exact (List.dropWhile_sublist _).length_le.trans_eq List.length_reverse

/-- Backticks aside, no two of the names that are tried are the same. -/
theorem plainName_candidate_injective (base : String) :
    Function.Injective fun k => Text.plainName (candidate base k) := by
  -- A backtick at the end of the base is trimmed only where no number stands behind it, so the base
  -- is compared by its length and the others by their numbers.
  have hLonger : ∀ k, (Text.plainName (candidate base 0)).toList.length <
      (Text.plainName (candidate base (k + 1))).toList.length := by
    intro k
    rw [toList_plainName_numbered, List.length_append, candidate]
    have hDigits := List.length_pos_of_ne_nil (Nat.toDigits_ne_nil (n := k + 2) (b := 10))
    have hBase := length_plainName_le base
    omega
  intro j k hSame
  cases j with
  | zero =>
    cases k with
    | zero => rfl
    | succ k => exact absurd (congrArg (·.toList.length) hSame) (hLonger k).ne
  | succ j =>
    cases k with
    | zero => exact absurd (congrArg (·.toList.length) hSame) (hLonger j).ne'
    | succ k =>
      have hTexts := congrArg String.toList hSame
      rw [toList_plainName_numbered, toList_plainName_numbered,
        List.append_cancel_left_eq] at hTexts
      have hNumbers := congrArg (Nat.ofDigitChars 10 · 0) hTexts
      simpa [Nat.ofDigitChars_ten_toDigits] using hNumbers

/-! ## The search -/

section Search

variable (taken : List String) (base : String)

theorem exists_free : ∃ k ∈ List.range (taken.length + 1),
    Text.plainName (candidate base k) ∉ taken := by
  by_contra! hNone
  have hDistinct : ((List.range (taken.length + 1)).map fun k =>
      Text.plainName (candidate base k)).Nodup :=
    List.nodup_range.map (plainName_candidate_injective base)
  have hTaken : ((List.range (taken.length + 1)).map fun k =>
      Text.plainName (candidate base k)) ⊆ taken := by
    intro name hMem
    obtain ⟨k, hRange, rfl⟩ := List.mem_map.mp hMem
    exact hNone k hRange
  have hLength := (List.subperm_of_subset hDistinct hTaken).length_le
  rw [List.length_map, List.length_range] at hLength
  omega

theorem freeName_eq_candidate : ∃ k, freeName taken base = candidate base k ∧
    Text.plainName (candidate base k) ∉ taken ∧
    ∀ j < k, Text.plainName (candidate base j) ∈ taken := by
  have hFound : ((List.range (taken.length + 1)).find? fun k =>
      !taken.contains (Text.plainName (candidate base k))).isSome = true := by
    obtain ⟨k, hRange, hFree⟩ := exists_free taken base
    exact List.find?_isSome.mpr ⟨k, hRange, by simpa using hFree⟩
  obtain ⟨k, hFirst⟩ := Option.isSome_iff_exists.mp hFound
  obtain ⟨hFree, _, hBefore⟩ := List.find?_range_eq_some.mp hFirst
  refine ⟨k, by rw [freeName, hFirst, Option.getD_some], by simpa using hFree, ?_⟩
  intro j hLt
  simpa using hBefore j hLt

variable {taken base}

theorem SearchEnds.of_first {k n : Nat}
    (hBefore : ∀ j < n, Text.plainName (candidate base (k + j)) ∈ taken)
    (hFree : Text.plainName (candidate base (k + n)) ∉ taken) :
    SearchEnds taken base k (candidate base (k + n)) := by
  induction n generalizing k with
  | zero => exact .found hFree
  | succ n ih =>
    refine .next (hBefore 0 (Nat.succ_pos n)) ?_
    rw [← Nat.add_assoc, Nat.add_right_comm] at hFree ⊢
    refine ih ?_ hFree
    intro j hLt
    rw [Nat.add_right_comm]
    exact hBefore (j + 1) (Nat.succ_lt_succ hLt)

theorem SearchEnds.unique {k : Nat} {name name' : String} (h : SearchEnds taken base k name)
    (h' : SearchEnds taken base k name') : name = name' := by
  induction h with
  | found hFree =>
    cases h' with
    | found _ => rfl
    | next hTaken _ => exact absurd hTaken hFree
  | next hTaken _ ih =>
    cases h' with
    | found hFree => exact absurd hTaken hFree
    | next _ hRest => exact ih hRest

theorem SearchEnds.notMem {k : Nat} {name : String} (h : SearchEnds taken base k name) :
    Text.plainName name ∉ taken := by
  induction h with
  | found hFree => exact hFree
  | next _ _ ih => exact ih

end Search

theorem searchEnds_freeName (taken : List String) (base : String) :
    SearchEnds taken base 0 (freeName taken base) := by
  obtain ⟨k, hName, hFree, hBefore⟩ := freeName_eq_candidate taken base
  rw [hName, ← Nat.zero_add k]
  exact .of_first (by simpa using hBefore) (by simpa using hFree)

/-! ## All slots -/

section Assignment

variable {overloaded : String → Bool} {taken : List String} {signatures : List Signature}

theorem assignmentEnds_slotsFrom (overloaded : String → Bool) (taken : List String)
    (signatures : List Signature) :
    AssignmentEnds overloaded taken signatures (slotsFrom overloaded taken signatures) := by
  induction signatures generalizing taken with
  | nil => exact .nil taken
  | cons s signatures ih => exact .cons (searchEnds_freeName taken _) (ih _)

theorem AssignmentEnds.unique {slots slots' : List Slot}
    (h : AssignmentEnds overloaded taken signatures slots)
    (h' : AssignmentEnds overloaded taken signatures slots') : slots = slots' := by
  induction h generalizing slots' with
  | nil _ =>
    cases h'
    rfl
  | cons hSearch _ ih =>
    cases h' with
    | cons hSearch' hRest' =>
      obtain rfl := hSearch.unique hSearch'
      rw [ih hRest']

theorem AssignmentEnds.distinct {slots : List Slot}
    (h : AssignmentEnds overloaded taken signatures slots) :
    (∀ slot ∈ slots, Text.plainName slot.name ∉ taken) ∧
      (slots.map fun slot => Text.plainName slot.name).Nodup := by
  induction h with
  | nil _ => exact ⟨List.forall_mem_nil _, List.nodup_nil⟩
  | cons hSearch _ ih =>
    obtain ⟨hFresh, hDistinct⟩ := ih
    constructor
    · rintro slot (_ | ⟨_, hMem⟩) hTaken
      · exact hSearch.notMem hTaken
      · exact hFresh slot hMem (List.mem_cons_of_mem _ hTaken)
    · -- The name is taken when those behind it are searched, and these are fresh.
      refine List.nodup_cons.mpr ⟨?_, hDistinct⟩
      intro hMem
      obtain ⟨slot, hSlot, hSame⟩ := List.mem_map.mp hMem
      exact hFresh slot hSlot (List.mem_cons.mpr (.inl hSame))

end Assignment

/-- However names are taken, the search for a free one ends; so does the assignment, with one slot
for each signature, in order, and with different properties. -/
theorem assignSlots_ends (signatures : List Signature) :
    (∀ taken base, ∃! name, SearchEnds taken base 0 name) ∧
      (∀ slots, AssignmentEnds (isOverloaded signatures) [] signatures slots ↔
        slots = assignSlots signatures) ∧
      (assignSlots signatures).map Slot.signature = signatures ∧
      ((assignSlots signatures).map Slot.property).Nodup := by
  have hEnds : AssignmentEnds (isOverloaded signatures) [] signatures (assignSlots signatures) :=
    assignmentEnds_slotsFrom _ [] signatures
  refine ⟨?_, ?_, signatures_assignSlots signatures, ?_⟩
  · intro taken base
    exact ⟨_, searchEnds_freeName taken base, fun _ h => h.unique (searchEnds_freeName taken base)⟩
  · intro slots
    constructor
    · exact fun h => h.unique hEnds
    · rintro rfl
      exact hEnds
  · have hProperties : (assignSlots signatures).map Slot.property =
        ((assignSlots signatures).map fun slot => Text.plainName slot.name).map ("_" ++ ·) := by
      rw [List.map_map]
      rfl
    rw [hProperties]
    exact hEnds.distinct.2.map fun _ _ hSame => (String.append_right_inj "_").mp hSame

def takings : List Signature :=
  ["take", "take", "take2"].map fun name =>
    .function (Signature.ofFunction ⟨name, [], .empty, none, [], none, none, [], [], none⟩)

example : (assignSlots takings).map Slot.property = ["_take", "_take2", "_take22"] := by decide

end SwiftDerive.Mock
