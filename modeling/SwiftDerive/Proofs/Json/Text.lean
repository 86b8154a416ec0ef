import SwiftDerive.Json.Reader
import SwiftDerive.Json.Writer

/-! # Texts are read as they were written

A character is written as itself, behind a backslash, or as one or two escaped units of sixteen
bits. Reading gives the units, and joining the halves of pairs gives the character again.
-/

namespace SwiftDerive.Json

set_option autoImplicit false

/-! ## Escapes of units -/

theorem hexValue_hexDigit (n : Nat) : hexValue? (Text.hexDigit n) = some (n % 16) := by
  have hAll : ∀ d : Fin 16, hexValue? (Nat.digitChar d.val) = some d.val := by decide
  exact hAll ⟨n % 16, Nat.mod_lt n (by decide)⟩

theorem unitEscape_eq (n : Nat) : unitEscape n =
    ['\\', 'u', Text.hexDigit (n / 16 / 16 / 16), Text.hexDigit (n / 16 / 16),
      Text.hexDigit (n / 16), Text.hexDigit n] := rfl

theorem unit_hexDigits {n : Nat} (h : n < 0x10000) :
    unit? (Text.hexDigit (n / 16 / 16 / 16)) (Text.hexDigit (n / 16 / 16)) (Text.hexDigit (n / 16))
      (Text.hexDigit n) = some n := by
  simp only [unit?, hexValue_hexDigit, Option.pure_def, Option.bind_eq_bind, Option.bind_some,
    Option.some.injEq]
  omega

/-- The four digits of an escape need a character behind them. -/
theorem readPoints_unitEscape {n : Nat} (h : n < 0x10000) (start : Nat) (seen : List Nat)
    (next : Char) (rest : List Char) :
    readPoints start seen (unitEscape n ++ next :: rest) =
      readPoints start (n :: seen) (next :: rest) := by
  rw [unitEscape_eq]
  simp only [List.cons_append, List.nil_append, readPoints, unit_hexDigits h]

/-! ## Characters -/

def unitsOf (c : Char) : List Nat :=
  if c.toNat < 0x10000 then [c.toNat]
  else [0xD800 + (c.toNat - 0x10000) / 0x400, 0xDC00 + (c.toNat - 0x10000) % 0x400]

theorem toNat_scalar (c : Char) : c.toNat < 0xD800 ∨ (0xDFFF < c.toNat ∧ c.toNat < 0x110000) :=
  c.valid

/-- A character is written as a letter behind a backslash, as itself, or by the escapes of its
units. -/
inductive WrittenAs (c : Char) : List Char → Prop where
  | letter (letter : Char) (notUnit : letter ≠ 'u') (escaped : escaped? letter = some c)
    (small : c.toNat < 0x10000) : WrittenAs c ['\\', letter]
  | itself (notQuote : c ≠ '\x22') (notBackslash : c ≠ '\\') (notControl : 0x1F < c.toNat)
    (small : c.toNat < 0x10000) : WrittenAs c [c]
  | unit (small : c.toNat < 0x10000) : WrittenAs c (unitEscape c.toNat)
  | pair (large : 0x10000 ≤ c.toNat) : WrittenAs c
      (unitEscape (0xD800 + (c.toNat - 0x10000) / 0x400) ++
        unitEscape (0xDC00 + (c.toNat - 0x10000) % 0x400))

theorem writtenAs_charText (c : Char) : WrittenAs c (charText c) := by
  simp only [charText]
  split
  · next h =>
    rcases (Bool.or_eq_true _ _).mp h with h | h <;> cases eq_of_beq h
    · exact .letter '\x22' (by decide) (by decide) (by decide)
    · exact .letter '\\' (by decide) (by decide) (by decide)
  · next hSpecial =>
    simp only [Bool.or_eq_true, beq_iff_eq, not_or] at hSpecial
    split
    · next h => cases eq_of_beq h; exact .letter 'n' (by decide) (by decide) (by decide)
    split
    · next h => cases eq_of_beq h; exact .letter 'r' (by decide) (by decide) (by decide)
    split
    · next h => cases eq_of_beq h; exact .letter 't' (by decide) (by decide) (by decide)
    split
    · next h =>
      cases (Char.toNat_inj.mp (eq_of_beq h) : c = '\x08')
      exact .letter 'b' (by decide) (by decide) (by decide)
    split
    · next h =>
      cases (Char.toNat_inj.mp (eq_of_beq h) : c = '\x0c')
      exact .letter 'f' (by decide) (by decide) (by decide)
    split
    · next h =>
      simp only [Bool.and_eq_true, decide_eq_true_eq] at h
      exact .itself hSpecial.1 hSpecial.2 (by omega) (by omega)
    split
    · next h => exact .unit h
    · next h => exact .pair (by omega)

theorem readPoints_charText (c : Char) (start : Nat) (seen : List Nat) (next : Char)
    (rest : List Char) :
    readPoints start seen (charText c ++ next :: rest) =
      readPoints start ((unitsOf c).reverse ++ seen) (next :: rest) := by
  have hRange := toNat_scalar c
  generalize charText c = text, writtenAs_charText c = h
  cases h with
  | letter letter notUnit escaped small =>
    rw [unitsOf, if_pos small, readPoints.eq_def]
    simp [notUnit, escaped]
  | itself notQuote notBackslash notControl small =>
    rw [unitsOf, if_pos small, List.singleton_append, readPoints]
    · simp [Nat.not_le.mpr notControl]
    all_goals simp [notQuote, notBackslash]
  | unit small =>
    rw [unitsOf, if_pos small, readPoints_unitEscape small]
    rfl
  | pair large =>
    rw [unitsOf, if_neg (Nat.not_lt.mpr large), List.append_assoc, unitEscape_eq (0xDC00 + _),
      List.cons_append, readPoints_unitEscape (by omega), ← List.cons_append, ← unitEscape_eq,
      readPoints_unitEscape (by omega)]
    rfl

/-! ## Joining halves -/

theorem joinHalves_scalar {n : Nat} (hHigh : isHighHalf n = false) (hLow : isLowHalf n = false)
    (ns : List Nat) : joinHalves (n :: ns) = Char.ofNat n :: joinHalves ns := by
  cases ns <;> simp [joinHalves, hHigh, hLow]

theorem joinHalves_pair {high low : Nat} (hHigh : isHighHalf high = true)
    (hLow : isLowHalf low = true) (ns : List Nat) :
    joinHalves (high :: low :: ns) =
      Char.ofNat (0x10000 + (high - 0xD800) * 0x400 + (low - 0xDC00)) :: joinHalves ns := by
  simp [joinHalves, hHigh, hLow]

theorem joinHalves_unitsOf (c : Char) (ns : List Nat) :
    joinHalves (unitsOf c ++ ns) = c :: joinHalves ns := by
  have hRange := toNat_scalar c
  unfold unitsOf
  split
  · next h =>
    have hHigh : isHighHalf c.toNat = false := by
      simp only [isHighHalf, Bool.and_eq_false_iff, decide_eq_false_iff_not]
      omega
    have hLow : isLowHalf c.toNat = false := by
      simp only [isLowHalf, Bool.and_eq_false_iff, decide_eq_false_iff_not]
      omega
    rw [List.singleton_append, joinHalves_scalar hHigh hLow, Char.ofNat_toNat]
  · next h =>
    have hHigh : isHighHalf (0xD800 + (c.toNat - 0x10000) / 0x400) = true := by
      simp only [isHighHalf, Bool.and_eq_true, decide_eq_true_eq]
      omega
    have hLow : isLowHalf (0xDC00 + (c.toNat - 0x10000) % 0x400) = true := by
      simp only [isLowHalf, Bool.and_eq_true, decide_eq_true_eq]
      omega
    have hJoined : 0x10000 + (0xD800 + (c.toNat - 0x10000) / 0x400 - 0xD800) * 0x400 +
        (0xDC00 + (c.toNat - 0x10000) % 0x400 - 0xDC00) = c.toNat := by omega
    rw [List.cons_append, List.singleton_append, joinHalves_pair hHigh hLow, hJoined,
      Char.ofNat_toNat]

theorem joinHalves_flatMap_unitsOf (cs : List Char) : joinHalves (cs.flatMap unitsOf) = cs := by
  induction cs with
  | nil => rfl
  | cons c cs ih => rw [List.flatMap_cons, joinHalves_unitsOf, ih]

/-! ## Texts -/

theorem readPoints_written (start : Nat) (seen : List Nat) (cs rest : List Char) :
    readPoints start seen (cs.flatMap charText ++ '\x22' :: rest) =
      .ok (seen.reverse ++ cs.flatMap unitsOf, rest) := by
  induction cs generalizing seen with
  | nil => simp [readPoints]
  | cons c cs ih =>
    obtain ⟨next, behind, hBehind⟩ :
        ∃ next behind, cs.flatMap charText ++ '\x22' :: rest = next :: behind :=
      List.exists_cons_of_ne_nil (by simp)
    rw [List.flatMap_cons, List.append_assoc, hBehind, readPoints_charText, ← hBehind, ih]
    simp

theorem readText_written (start : Nat) (s : String) (rest : List Char) :
    readText start (s.toList.flatMap charText ++ '\x22' :: rest) = .ok (s, rest) := by
  rw [readText, readPoints_written]
  simp [joinHalves_flatMap_unitsOf]

theorem toList_textOf (s : String) :
    (textOf s).toList = '\x22' :: (s.toList.flatMap charText ++ ['\x22']) := by
  simp [textOf]

end SwiftDerive.Json
