import Mathlib.Data.List.DropRight
import Mathlib.Data.List.Forall2
import Mathlib.Data.List.Nodup
import Mathlib.Data.List.TakeWhile

/-! # Lists without repetition, indexed lists, first items, parts of lists and lists that correspond -/

namespace SwiftDerive

set_option autoImplicit false

theorem nodup_eraseDups (names : List String) : names.eraseDups.Nodup := by
  -- The names behind the first are filtered before they are looked at, so the length decreases.
  induction hLength : names.length using Nat.strongRecOn generalizing names with
  | ind n ih =>
    cases names with
    | nil => exact List.nodup_nil
    | cons name names =>
      rw [List.eraseDups_cons]
      have hShorter := List.length_filter_le (fun other => !other == name) names
      rw [List.length_cons] at hLength
      refine List.nodup_cons.mpr ⟨?_, ih _ (by omega) _ rfl⟩
      rw [List.mem_eraseDups, List.mem_filter]
      rintro ⟨_, hOther⟩
      simp at hOther

theorem eraseDups_of_nodup {names : List String} (h : names.Nodup) : names.eraseDups = names := by
  induction names with
  | nil => rfl
  | cons name names ih =>
    obtain ⟨hNew, hRest⟩ := List.nodup_cons.mp h
    have hKept : names.filter (fun other => !other == name) = names := by
      refine List.filter_eq_self.mpr fun other hMem => ?_
      have hOther : other ≠ name := fun hSame => hNew (hSame ▸ hMem)
      simp [hOther]
    rw [List.eraseDups_cons, hKept, ih hRest]

theorem exists_first_cons_iff {α : Type} {Passed Found : α → Prop} (a : α) (as : List α) :
    (∃ before first after, a :: as = before ++ first :: after ∧ (∀ b ∈ before, Passed b) ∧
        Found first) ↔
      Found a ∨ (Passed a ∧ ∃ before first after, as = before ++ first :: after ∧
        (∀ b ∈ before, Passed b) ∧ Found first) := by
  constructor
  · rintro ⟨before, first, after, hSplit, hBefore, hFound⟩
    cases before with
    | nil =>
      obtain ⟨rfl, rfl⟩ := List.cons.inj hSplit
      exact .inl hFound
    | cons head before =>
      obtain ⟨rfl, rfl⟩ := List.cons.inj hSplit
      obtain ⟨hHead, hBefore⟩ := List.forall_mem_cons.mp hBefore
      exact .inr ⟨hHead, before, first, after, rfl, hBefore, hFound⟩
  · rintro (hFound | ⟨hHead, before, first, after, rfl, hBefore, hFound⟩)
    · exact ⟨[], a, as, rfl, List.forall_mem_nil _, hFound⟩
    · exact ⟨a :: before, first, after, rfl, List.forall_mem_cons.mpr ⟨hHead, hBefore⟩, hFound⟩

theorem pairwise_zipIdx {α : Type} (items : List α) (i : Nat) :
    (items.zipIdx i).Pairwise fun a b => a.2 < b.2 := by
  induction items generalizing i with
  | nil => exact .nil
  | cons item items ih =>
    rw [List.zipIdx_cons, List.pairwise_cons]
    exact ⟨fun b hMem => List.le_snd_of_mem_zipIdx hMem, ih (i + 1)⟩

/-! ## Parts of lists -/

theorem dropWhile_append_of_exists {α : Type} {p : α → Bool} {front : List α}
    (h : ∃ a ∈ front, p a = false) (rest : List α) :
    (front ++ rest).dropWhile p = front.dropWhile p ++ rest := by
  rw [List.dropWhile_append, if_neg]
  rw [List.isEmpty_iff, List.dropWhile_eq_nil_iff]
  obtain ⟨a, hMem, hFalse⟩ := h
  exact fun hAll => Bool.false_ne_true (hFalse.symm.trans (hAll a hMem))

theorem exists_dropWhile_concat {α : Type} {p : α → Bool} {a : α} (hStop : p a = false)
    (items : List α) : ∃ front, (items ++ [a]).dropWhile p = front ++ [a] := by
  rw [List.dropWhile_append]
  split
  · exact ⟨[], by simp [hStop]⟩
  · exact ⟨_, rfl⟩

theorem rtakeWhile_append_cons {α : Type} {p : α → Bool} {a : α} (hStop : p a = false)
    (front rest : List α) : (front ++ a :: rest).rtakeWhile p = rest.rtakeWhile p := by
  induction rest using List.reverseRecOn with
  | nil => simp [hStop]
  | append_singleton rest b ih =>
    rw [← List.cons_append, ← List.append_assoc, List.rtakeWhile_concat, List.rtakeWhile_concat, ih]

theorem mem_of_mem_splitOnP {α : Type} {p : α → Bool} {xs part : List α}
    (hPart : part ∈ xs.splitOnP p) {x : α} (hMem : x ∈ part) : x ∈ xs ∧ p x = false := by
  induction xs generalizing part with
  | nil =>
    rw [List.splitOnP_nil, List.mem_singleton] at hPart
    simp [hPart] at hMem
  | cons y xs ih =>
    have hLater {later : List α} (hPart : later ∈ xs.splitOnP p) (hMem : x ∈ later) :
        x ∈ y :: xs ∧ p x = false :=
      (ih hPart hMem).imp_left (List.mem_cons_of_mem y)
    rw [List.splitOnP_cons_eq_if_modifyHead] at hPart
    split at hPart
    · rcases List.mem_cons.mp hPart with rfl | hPart
      · cases hMem
      · exact hLater hPart hMem
    · next hItem =>
      obtain ⟨first, parts, hParts⟩ := List.exists_cons_of_ne_nil (List.splitOnP_ne_nil p xs)
      rw [hParts, List.modifyHead_cons] at hPart
      rw [hParts] at hLater
      rcases List.mem_cons.mp hPart with rfl | hPart
      · rcases List.mem_cons.mp hMem with rfl | hMem
        · exact ⟨List.mem_cons_self, by simpa using hItem⟩
        · exact hLater List.mem_cons_self hMem
      · exact hLater (List.mem_cons_of_mem first hPart) hMem

theorem eq_or_exists_of_concat_eq {α : Type} {xs front behind : List α} {x y : α}
    (hSplit : xs ++ [x] = front ++ y :: behind) :
    (front = xs ∧ y = x ∧ behind = []) ∨
      ∃ more, behind = more ++ [x] ∧ xs = front ++ y :: more := by
  rcases List.eq_nil_or_concat behind with rfl | ⟨more, last, rfl⟩
  · obtain ⟨hFront, hLast⟩ := List.append_inj' hSplit rfl
    exact .inl ⟨hFront.symm, (List.cons.inj hLast).left.symm, rfl⟩
  · rw [List.concat_eq_append, ← List.cons_append, ← List.append_assoc] at hSplit
    obtain ⟨hFront, hLast⟩ := List.append_inj' hSplit rfl
    refine .inr ⟨more, ?_, hFront⟩
    rw [List.concat_eq_append, ← (List.cons.inj hLast).left]

theorem splitOn_cons_self {α : Type} [BEq α] [LawfulBEq α] (a : α) (rest : List α) :
    (a :: rest).splitOn a = [] :: rest.splitOn a := by
  rw [List.splitOn, List.splitOnP_cons_eq_if_modifyHead, if_pos (beq_self_eq_true a)]
  rfl

theorem splitOn_append_of_notMem {α : Type} [BEq α] [LawfulBEq α] {a : α} {front : List α}
    (h : a ∉ front) {rest first : List α} {parts : List (List α)}
    (hRest : rest.splitOn a = first :: parts) :
    (front ++ rest).splitOn a = (front ++ first) :: parts := by
  induction front with
  | nil => exact hRest
  | cons b front ih =>
    obtain ⟨hHead, hTail⟩ := List.ne_and_not_mem_of_not_mem_cons h
    have hOther : ¬ (b == a) = true := by simpa using hHead.symm
    have hSplit := ih hTail
    rw [List.splitOn] at hSplit ⊢
    rw [List.cons_append, List.splitOnP_cons_eq_if_modifyHead, if_neg hOther, hSplit,
      List.modifyHead_cons]
    rfl

section Correspondence

variable {α β : Type} {R : α → β → Prop} {as : List α} {bs : List β}

theorem exists_of_mem_right (h : List.Forall₂ R as bs) {b : β} (hMem : b ∈ bs) :
    ∃ a ∈ as, R a b := by
  induction h with
  | nil => cases hMem
  | cons hHead _ ih =>
    rcases List.mem_cons.mp hMem with rfl | hTail
    · exact ⟨_, List.mem_cons_self, hHead⟩
    · obtain ⟨a, hA, hR⟩ := ih hTail
      exact ⟨a, List.mem_cons_of_mem _ hA, hR⟩

theorem exists_of_mem_left (h : List.Forall₂ R as bs) {a : α} (hMem : a ∈ as) :
    ∃ b ∈ bs, R a b :=
  exists_of_mem_right (List.Forall₂.flip h) hMem

theorem map_eq_map_of_forall₂ {γ : Type} {f : α → γ} {g : β → γ}
    (h : List.Forall₂ (fun a b => f a = g b) as bs) : as.map f = bs.map g := by
  induction h with
  | nil => rfl
  | cons hHead _ ih => rw [List.map_cons, List.map_cons, hHead, ih]

theorem map_eq_map_iff_zip {γ : Type} (f : α → γ) (as bs : List α) :
    as.map f = bs.map f ↔
      as.length = bs.length ∧ ∀ pair ∈ as.zip bs, f pair.1 = f pair.2 := by
  have hImages : as.map f = bs.map f ↔ List.Forall₂ (· = ·) (as.map f) (bs.map f) := by
    rw [List.forall₂_eq_eq_eq]
  rw [hImages, List.forall₂_map_left_iff, List.forall₂_map_right_iff, List.forall₂_iff_zip]
  exact and_congr_right fun _ => ⟨fun h pair hMem => h hMem, fun h _ _ hMem => h _ hMem⟩

end Correspondence

end SwiftDerive
