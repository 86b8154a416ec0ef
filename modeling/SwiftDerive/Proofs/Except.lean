import SwiftDerive.Proofs.Lists

/-! # Results of computations that may fail

A composed computation gives a result exactly when its parts do. What is said of the results and of
the errors of the parts holds of those of the whole.
-/

namespace SwiftDerive

set_option autoImplicit false

variable {ε α β : Type}

theorem map_eq_ok_iff (x : Except ε α) (f : α → β) (b : β) :
    x.map f = .ok b ↔ ∃ a, x = .ok a ∧ f a = b := by
  cases x <;> simp [Except.map]

theorem map_eq_error_iff (x : Except ε α) (f : α → β) (e : ε) :
    x.map f = .error e ↔ x = .error e := by
  cases x <;> simp [Except.map]

theorem exists_map_eq_ok_iff (x : Except ε α) (f : α → β) :
    (∃ b, x.map f = .ok b) ↔ ∃ a, x = .ok a := by
  cases x <;> simp [Except.map]

theorem bind_eq_ok_iff (x : Except ε α) (f : α → Except ε β) (b : β) :
    x >>= f = .ok b ↔ ∃ a, x = .ok a ∧ f a = .ok b := by
  cases x <;> simp [bind, Except.bind]

theorem bind_eq_error_iff (x : Except ε α) (f : α → Except ε β) (e : ε) :
    x >>= f = .error e ↔ x = .error e ∨ ∃ a, x = .ok a ∧ f a = .error e := by
  cases x <;> simp [bind, Except.bind]

theorem mapError_eq_ok_iff {ε' : Type} (x : Except ε α) (f : ε → ε') (a : α) :
    x.mapError f = .ok a ↔ x = .ok a := by
  cases x <;> simp [Except.mapError]

theorem mapError_eq_error_iff {ε' : Type} (x : Except ε α) (f : ε → ε') (e' : ε') :
    x.mapError f = .error e' ↔ ∃ e, x = .error e ∧ f e = e' := by
  cases x <;> simp [Except.mapError]

theorem exists_eq_ok_of_isOk {x : Except ε α} (h : x.isOk = true) : ∃ a, x = .ok a := by
  cases x with
  | ok a => exact ⟨a, rfl⟩
  | error e => cases h

theorem mapM_congr {items : List α} {f g : α → Except ε β} (h : ∀ a ∈ items, f a = g a) :
    items.mapM f = items.mapM g := by
  induction items with
  | nil => rfl
  | cons a items ih =>
    obtain ⟨hHead, hTail⟩ := List.forall_mem_cons.mp h
    rw [List.mapM_cons, List.mapM_cons, hHead, ih hTail]

theorem foldlM_congr {items : List α} {f g : β → α → Except ε β}
    (h : ∀ a ∈ items, ∀ b, f b a = g b a) (b : β) : items.foldlM f b = items.foldlM g b := by
  induction items generalizing b with
  | nil => rfl
  | cons a items ih =>
    obtain ⟨hHead, hTail⟩ := List.forall_mem_cons.mp h
    rw [List.foldlM_cons, List.foldlM_cons, hHead b]
    exact congrArg _ (funext (ih hTail))

/-- What holds of a run without items, and of one with an item more, holds of every run that gives a
result. -/
theorem foldlM_ok_induction {f : β → α → Except ε β} {motive : List α → β → β → Prop}
    (nil : ∀ b, motive [] b b)
    (cons : ∀ a items b next last, f b a = .ok next → motive items next last →
      motive (a :: items) b last)
    {items : List α} {b last : β} (hRun : items.foldlM f b = .ok last) : motive items b last := by
  induction items generalizing b with
  | nil =>
    cases hRun
    exact nil _
  | cons a items ih =>
    rw [List.foldlM_cons, bind_eq_ok_iff] at hRun
    obtain ⟨next, hStep, hRest⟩ := hRun
    exact cons a items b next last hStep (ih hRest)

theorem foldlM_eq_ok_self {f : β → α → Except ε β} {items : List α} {b : β}
    (h : ∀ a ∈ items, f b a = .ok b) : items.foldlM f b = .ok b := by
  induction items with
  | nil => rfl
  | cons a items ih =>
    obtain ⟨hHead, hTail⟩ := List.forall_mem_cons.mp h
    rw [List.foldlM_cons, hHead]
    exact ih hTail

theorem foldlM_append_of_ok {f : β → α → Except ε β} {front : List α} {b mid : β}
    (hFront : front.foldlM f b = .ok mid) (rest : List α) :
    (front ++ rest).foldlM f b = rest.foldlM f mid := by
  rw [List.foldlM_append, hFront]
  rfl

theorem foldlM_cons_of_ok {f : β → α → Except ε β} {a : α} {b mid : β} (hHead : f b a = .ok mid)
    (rest : List α) : (a :: rest).foldlM f b = rest.foldlM f mid := by
  rw [List.foldlM_cons, hHead]
  rfl

theorem mapM_eq_ok_iff (f : α → Except ε β) (items : List α) (results : List β) :
    items.mapM f = .ok results ↔ List.Forall₂ (fun a b => f a = .ok b) items results := by
  induction items generalizing results with
  | nil =>
    rw [List.forall₂_nil_left_iff, List.mapM_nil]
    exact ⟨fun h => (Except.ok.inj h).symm, fun h => h ▸ rfl⟩
  | cons a items ih =>
    simp only [List.mapM_cons, bind_eq_ok_iff, List.forall₂_cons_left_iff, ih]
    constructor
    · rintro ⟨b, hHead, bs, hTail, hResults⟩
      exact ⟨b, bs, hHead, hTail, (Except.ok.inj hResults).symm⟩
    · rintro ⟨b, bs, hHead, hTail, rfl⟩
      exact ⟨b, hHead, bs, hTail, rfl⟩

theorem mapM_eq_error_iff (f : α → Except ε β) (items : List α) (e : ε) :
    items.mapM f = .error e ↔ ∃ before first after, items = before ++ first :: after ∧
      (∀ a ∈ before, ∃ b, f a = .ok b) ∧ f first = .error e := by
  induction items with
  | nil =>
    rw [List.mapM_nil]
    constructor
    · intro h
      cases h
    · rintro ⟨before, first, after, hSplit, _⟩
      simp at hSplit
  | cons a items ih =>
    rw [exists_first_cons_iff, ← ih, List.mapM_cons, bind_eq_error_iff]
    refine or_congr_right ⟨?_, ?_⟩
    · rintro ⟨b, hHead, hRest⟩
      rcases (bind_eq_error_iff _ _ _).mp hRest with hTail | ⟨bs, _, hNever⟩
      · exact ⟨⟨b, hHead⟩, hTail⟩
      · cases hNever
    · rintro ⟨⟨b, hHead⟩, hTail⟩
      exact ⟨b, hHead, (bind_eq_error_iff _ _ _).mpr (.inl hTail)⟩

theorem length_eq_of_mapM_eq_ok {f : α → Except ε β} {items : List α} {results : List β}
    (hRun : items.mapM f = .ok results) : results.length = items.length :=
  ((mapM_eq_ok_iff f items results).mp hRun).length_eq.symm

/-! ## What holds of results and errors -/

/-- The result is as `Q` says, the error as `P` says. -/
def Meets (P : ε → Prop) (Q : α → Prop) : Except ε α → Prop
  | .ok a => Q a
  | .error e => P e

namespace Meets

variable {P P' : ε → Prop} {Q Q' : α → Prop} {R : β → Prop} {x : Except ε α}

theorem imp (h : Meets P Q x) (hError : ∀ e, P e → P' e) (hOk : ∀ a, Q a → Q' a) :
    Meets P' Q' x := by
  cases x with
  | ok a => exact hOk a h
  | error e => exact hError e h

theorem bind {f : α → Except ε β} (h : Meets P Q x) (hNext : ∀ a, Q a → Meets P R (f a)) :
    Meets P R (x >>= f) := by
  cases x with
  | ok a => exact hNext a h
  | error e => exact h

theorem map {f : α → β} (h : Meets P Q x) (hResult : ∀ a, Q a → R (f a)) : Meets P R (x.map f) := by
  cases x with
  | ok a => exact hResult a h
  | error e => exact h

theorem of_ok (h : Meets P Q x) : Meets P (fun a => x = .ok a ∧ Q a) x := by
  cases x with
  | ok a => exact ⟨rfl, h⟩
  | error e => exact h

theorem foldlM {items : List α} {f : β → α → Except ε β}
    (hStep : ∀ a ∈ items, ∀ b, R b → Meets P R (f b a)) {b : β} (hStart : R b) :
    Meets P R (items.foldlM f b) := by
  induction items generalizing b with
  | nil => exact hStart
  | cons a items ih =>
    obtain ⟨hHead, hTail⟩ := List.forall_mem_cons.mp hStep
    rw [List.foldlM_cons]
    exact (hHead b hStart).bind fun next hNext => ih hTail hNext

theorem mapM {items : List α} {f : α → Except ε β} (h : ∀ a ∈ items, Meets P R (f a)) :
    Meets P (fun bs => ∀ b ∈ bs, R b) (items.mapM f) := by
  induction items with
  | nil => exact List.forall_mem_nil R
  | cons a items ih =>
    obtain ⟨hHead, hTail⟩ := List.forall_mem_cons.mp h
    rw [List.mapM_cons]
    refine hHead.bind fun b hB => (ih hTail).bind fun bs hBs => ?_
    exact List.forall_mem_cons.mpr ⟨hB, hBs⟩

end Meets

end SwiftDerive
