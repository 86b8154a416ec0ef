import SwiftDerive.Json.Reader
import SwiftDerive.Json.Writer

/-! # Integers are read as they were written

The decimal digits of a number have no zero in front and spell the number. A number that ends where
neither a digit nor a fraction nor an exponent follows is read whole, as an integer.
-/

namespace SwiftDerive.Json

set_option autoImplicit false

def EndsNumber (rest : List Char) : Prop :=
  ∀ c ∈ rest.head?, c.isDigit = false ∧ c ≠ '.' ∧ c ≠ 'e' ∧ c ≠ 'E'

theorem endsNumber_nil : EndsNumber [] := by
  intro c h
  cases h

theorem endsNumber_cons {c : Char} (hDigit : c.isDigit = false) (hPoint : c ≠ '.')
    (hSmall : c ≠ 'e') (hLarge : c ≠ 'E') (rest : List Char) : EndsNumber (c :: rest) := by
  intro d h
  cases h
  exact ⟨hDigit, hPoint, hSmall, hLarge⟩

/-! ## Digits -/

theorem natOfDigits_toDigits (n : Nat) : natOfDigits (Nat.toDigits 10 n) = n :=
  Nat.ofDigitChars_ten_toDigits

theorem isDigit_toDigits {n : Nat} : ∀ c ∈ Nat.toDigits 10 n, c.isDigit = true :=
  fun _ => Nat.isDigit_of_mem_toDigits (by decide) (by decide)

theorem toDigits_eq_cons {n : Nat} (h : 0 < n) :
    ∃ d ds, Nat.toDigits 10 n = d :: ds ∧ d ≠ '0' := by
  induction n using Nat.strongRecOn with
  | ind n ih =>
    by_cases hSmall : n < 10
    · refine ⟨n.digitChar, [], Nat.toDigits_of_lt_base hSmall, ?_⟩
      rw [Ne, Nat.digitChar_eq_zero]
      omega
    · obtain ⟨d, ds, hDigits, hNe⟩ := ih (n / 10) (by omega) (by omega)
      refine ⟨d, ds ++ [(n % 10).digitChar], ?_, hNe⟩
      rw [Nat.toDigits_of_base_le (by decide) (by omega), hDigits, List.cons_append]

theorem digits_append {ds rest : List Char} (hDigits : ∀ c ∈ ds, c.isDigit = true)
    (hEnds : EndsNumber rest) : digits (ds ++ rest) = (ds, rest) := by
  rw [digits, List.takeWhile_append_of_pos hDigits, List.dropWhile_append_of_pos hDigits]
  cases rest with
  | nil => simp
  | cons c rest =>
    have hDigit := (hEnds c rfl).1
    simp [hDigit]

/-! ## Integers -/

theorem readFraction_of_endsNumber {rest : List Char} (h : EndsNumber rest) :
    readFraction rest = ([], rest) := by
  unfold readFraction
  split
  · exact absurd rfl (h '.' rfl).2.1
  · rfl

theorem readExponent_of_endsNumber {rest : List Char} (h : EndsNumber rest) :
    readExponent rest = (none, rest) := by
  cases rest with
  | nil => rfl
  | cons c rest =>
    obtain ⟨_, _, hSmall, hLarge⟩ := h c rfl
    simp [readExponent, hSmall, hLarge]

theorem readNumber_toDigits (negative : Bool) (n : Nat) {rest : List Char} (h : EndsNumber rest) :
    readNumber? negative (Nat.toDigits 10 n ++ rest) =
      some (.int (if negative then -n else n), rest) := by
  have hValue := natOfDigits_toDigits n
  rcases Nat.eq_zero_or_pos n with rfl | hPos
  · rw [Nat.toDigits_zero] at hValue ⊢
    simp [readNumber?, readFraction_of_endsNumber h, readExponent_of_endsNumber h, hValue]
  · obtain ⟨d, ds, hDigits, hNe⟩ := toDigits_eq_cons hPos
    have hRead := digits_append (hDigits ▸ isDigit_toDigits) h
    rw [hDigits] at hValue ⊢
    rw [List.cons_append, readNumber?, ← List.cons_append, hRead]
    · simp [readFraction_of_endsNumber h, readExponent_of_endsNumber h, hValue]
    · intro behind hZero
      exact hNe (List.cons.inj hZero).1

theorem readScalar_of_isDigit {c : Char} (h : c.isDigit = true) (rest : List Char) :
    readScalar (c :: rest) =
      ((readNumber? false (c :: rest)).map Except.ok).getD (.error ⟨.value, rest.length + 1⟩) := by
  unfold readScalar
  split <;> simp_all

theorem readScalar_minus {c : Char} (h : c.isDigit = true) (rest : List Char) :
    readScalar ('-' :: c :: rest) =
      ((readNumber? true (c :: rest)).map Except.ok).getD (.error ⟨.value, rest.length + 2⟩) := by
  unfold readScalar
  split
  case h_7 hText => cases hText; rfl
  all_goals simp_all

theorem readScalar_int (n : Int) {rest : List Char} (h : EndsNumber rest) :
    readScalar ((toString n).toList ++ rest) = .ok (.int n, rest) := by
  have hCons : ∀ m : Nat, ∃ d ds, Nat.toDigits 10 m = d :: ds ∧ d.isDigit = true := by
    intro m
    obtain ⟨d, ds, hDigits⟩ := List.exists_cons_of_ne_nil (Nat.toDigits_ne_nil (n := m) (b := 10))
    exact ⟨d, ds, hDigits, isDigit_toDigits d (hDigits ▸ List.mem_cons_self)⟩
  rw [Int.toString_eq_repr, Int.repr_eq_if]
  split
  · next hNonneg =>
    obtain ⟨d, ds, hDigits, hDigit⟩ := hCons n.toNat
    have hRead := readNumber_toDigits false n.toNat h
    rw [Nat.toList_repr, hDigits, List.cons_append, readScalar_of_isDigit hDigit, ← List.cons_append,
      ← hDigits, hRead, if_neg Bool.false_ne_true, Int.toNat_of_nonneg hNonneg]
    rfl
  · next hNegative =>
    obtain ⟨d, ds, hDigits, hDigit⟩ := hCons (-n).toNat
    have hRead := readNumber_toDigits true (-n).toNat h
    have hBack : -((-n).toNat : Int) = n := by omega
    rw [String.toList_append, Nat.toList_repr, hDigits]
    change readScalar ('-' :: d :: (ds ++ rest)) = _
    rw [readScalar_minus hDigit, ← List.cons_append, ← hDigits, hRead, if_pos rfl, hBack]
    rfl

end SwiftDerive.Json
