import SwiftDerive.Proofs.Text.Lines
import SwiftDerive.Text.Utf8

/-! # Texts and their bytes

Reading bytes undoes writing them. A line feed is a byte of its own that is part of no other
character, so that the lines of a text and those of its bytes are the same.
-/

namespace SwiftDerive.Text

set_option autoImplicit false

def encodeUtf8 (cs : List Char) : List UInt8 :=
  cs.flatMap String.utf8EncodeChar

@[simp] theorem encodeUtf8_nil : encodeUtf8 [] = [] := rfl

@[simp] theorem encodeUtf8_cons (c : Char) (cs : List Char) :
    encodeUtf8 (c :: cs) = String.utf8EncodeChar c ++ encodeUtf8 cs :=
  List.flatMap_cons

@[simp] theorem encodeUtf8_append (front rest : List Char) :
    encodeUtf8 (front ++ rest) = encodeUtf8 front ++ encodeUtf8 rest :=
  List.flatMap_append

/-! ## Reading the bytes of a character -/

section Steps

variable (offset : Nat) {b : UInt8} (bs : List UInt8)

theorem decodeFrom_ascii (h : b.toNat < 0x80) : decodeFrom offset none (b :: bs) =
    (Char.ofNat b.toNat :: ·) <$> decodeFrom (offset + 1) none bs :=
  if_pos h

theorem decodeFrom_lead {c : PartialChar} (h : ¬ b.toNat < 0x80)
    (hLead : PartialChar.ofLead? b = some c) :
    decodeFrom offset none (b :: bs) = decodeFrom (offset + 1) (some c) bs := by
  rw [decodeFrom, if_neg h, hLead]

variable (bytes : List UInt8) (value : Nat) {low high : Nat} (h : low ≤ b.toNat ∧ b.toNat ≤ high)

include h

theorem decodeFrom_more (next : Nat × Nat) (expected : List (Nat × Nat)) :
    decodeFrom offset (some ⟨bytes, value, (low, high) :: next :: expected⟩) (b :: bs) =
      decodeFrom (offset + 1)
        (some ⟨bytes ++ [b], value * 0x40 + (b.toNat - 0x80), next :: expected⟩) bs := by
  simp [decodeFrom, h]

theorem decodeFrom_last :
    decodeFrom offset (some ⟨bytes, value, [(low, high)]⟩) (b :: bs) =
      (Char.ofNat (value * 0x40 + (b.toNat - 0x80)) :: ·) <$> decodeFrom (offset + 1) none bs := by
  simp [decodeFrom, h]

end Steps

section Characters

variable (offset : Nat) {b d e f : UInt8} (bs : List UInt8)

def IsTail (b : UInt8) : Prop := 0x80 ≤ b.toNat ∧ b.toNat ≤ 0xBF

theorem decodeFrom_two (hLead : 0xC2 ≤ b.toNat ∧ b.toNat < 0xE0) (hd : IsTail d) :
    decodeFrom offset none (b :: d :: bs) =
      (Char.ofNat ((b.toNat - 0xC0) * 0x40 + (d.toNat - 0x80)) :: ·) <$>
        decodeFrom (offset + 2) none bs := by
  have hFirst : PartialChar.ofLead? b = some ⟨[b], b.toNat - 0xC0, [continuation]⟩ := by
    unfold PartialChar.ofLead?
    rw [if_neg (by omega), if_pos hLead.2]
  rw [decodeFrom_lead offset _ (by omega) hFirst, continuation, decodeFrom_last _ _ _ _ hd]

/-- The second byte is bounded where a shorter form or no character is to be kept out. -/
theorem decodeFrom_three (hLead : 0xE0 ≤ b.toNat ∧ b.toNat < 0xF0) (hd : IsTail d) (he : IsTail e)
    (hLow : b.toNat = 0xE0 → 0xA0 ≤ d.toNat) (hHigh : b.toNat = 0xED → d.toNat ≤ 0x9F) :
    decodeFrom offset none (b :: d :: e :: bs) =
      (Char.ofNat (((b.toNat - 0xE0) * 0x40 + (d.toNat - 0x80)) * 0x40 + (e.toNat - 0x80)) :: ·) <$>
        decodeFrom (offset + 3) none bs := by
  have hFirst : ∃ low high, PartialChar.ofLead? b =
      some ⟨[b], b.toNat - 0xE0, [(low, high), continuation]⟩ ∧ low ≤ d.toNat ∧ d.toNat ≤ high := by
    unfold PartialChar.ofLead?
    rw [if_neg (by omega), if_neg (by omega)]
    by_cases hFirst : b.toNat = 0xE0
    · exact ⟨_, _, by simp [hFirst], hLow hFirst, hd.2⟩
    · by_cases hSurrogate : b.toNat = 0xED
      · exact ⟨_, _, by simp [hSurrogate], hd.1, hHigh hSurrogate⟩
      · exact ⟨_, _, by simp [hFirst, hSurrogate, hLead.2]; rfl, hd.1, hd.2⟩
  obtain ⟨low, high, hFirst, hSecond⟩ := hFirst
  rw [decodeFrom_lead offset _ (by omega) hFirst, decodeFrom_more _ _ _ _ hSecond, continuation,
    decodeFrom_last _ _ _ _ he]

theorem decodeFrom_four (hLead : 0xF0 ≤ b.toNat ∧ b.toNat ≤ 0xF4) (hd : IsTail d) (he : IsTail e)
    (hf : IsTail f) (hLow : b.toNat = 0xF0 → 0x90 ≤ d.toNat)
    (hHigh : b.toNat = 0xF4 → d.toNat ≤ 0x8F) :
    decodeFrom offset none (b :: d :: e :: f :: bs) =
      (Char.ofNat ((((b.toNat - 0xF0) * 0x40 + (d.toNat - 0x80)) * 0x40 + (e.toNat - 0x80)) * 0x40 +
        (f.toNat - 0x80)) :: ·) <$> decodeFrom (offset + 4) none bs := by
  have hFirst : ∃ low high, PartialChar.ofLead? b =
      some ⟨[b], b.toNat - 0xF0, [(low, high), continuation, continuation]⟩ ∧
        low ≤ d.toNat ∧ d.toNat ≤ high := by
    unfold PartialChar.ofLead?
    rw [if_neg (by omega), if_neg (by omega), if_neg (by omega), if_neg (by omega),
      if_neg (by omega)]
    by_cases hFirst : b.toNat = 0xF0
    · exact ⟨_, _, by simp [hFirst], hLow hFirst, hd.2⟩
    · by_cases hLast : b.toNat = 0xF4
      · exact ⟨_, _, by simp [hLast], hd.1, hHigh hLast⟩
      · have hMiddle : b.toNat < 0xF4 := by omega
        exact ⟨_, _, by simp [hFirst, hLast, hMiddle]; rfl, hd.1, hd.2⟩
  obtain ⟨low, high, hFirst, hSecond⟩ := hFirst
  rw [decodeFrom_lead offset _ (by omega) hFirst, decodeFrom_more _ _ _ _ hSecond, continuation,
    decodeFrom_more _ _ _ _ he, decodeFrom_last _ _ _ _ hf]

end Characters

theorem toNat_byte {n : Nat} (h : n < 0x100) : (UInt8.ofNat n).toNat = n := by
  rw [UInt8.toNat_ofNat', Nat.mod_eq_of_lt h]

theorem toNat_tail (n : Nat) : (UInt8.ofNat (n % 64 + 128)).toNat = n % 64 + 128 :=
  toNat_byte (by omega)

theorem isTail_tail (n : Nat) : IsTail (UInt8.ofNat (n % 64 + 128)) := by
  rw [IsTail, toNat_tail]
  omega

theorem decodeFrom_encodeChar (offset : Nat) (c : Char) (bs : List UInt8) :
    ∃ behind, decodeFrom offset none (String.utf8EncodeChar c ++ bs) =
      (c :: ·) <$> decodeFrom behind none bs := by
  have hValid : c.toNat < 0xD800 ∨ (0xDFFF < c.toNat ∧ c.toNat < 0x110000) := c.valid
  have hChar {n : Nat} (h : n = c.toNat) : Char.ofNat n = c := by rw [h, Char.ofNat_toNat]
  have hNat : c.val.toNat = c.toNat := rfl
  unfold String.utf8EncodeChar
  simp only [hNat]
  split
  · have hLead := toNat_byte (n := c.toNat) (by omega)
    refine ⟨offset + 1, ?_⟩
    rw [List.singleton_append, decodeFrom_ascii _ _ (by omega), hChar hLead]
  · split
    · have hLead := toNat_byte (n := c.toNat / 64 % 32 + 192) (by omega)
      refine ⟨offset + 2, ?_⟩
      simp only [List.cons_append, List.nil_append]
      rw [decodeFrom_two _ _ (by omega) (isTail_tail _)]
      simp only [hLead, toNat_tail]
      rw [hChar (by omega)]
    · split
      · have hLead := toNat_byte (n := c.toNat / 4096 % 16 + 224) (by omega)
        have hSecond := toNat_tail (c.toNat / 64)
        refine ⟨offset + 3, ?_⟩
        simp only [List.cons_append, List.nil_append]
        rw [decodeFrom_three _ _ (by omega) (isTail_tail _) (isTail_tail _) (by omega) (by omega)]
        simp only [hLead, toNat_tail]
        rw [hChar (by omega)]
      · have hLead := toNat_byte (n := c.toNat / 262144 % 8 + 240) (by omega)
        have hSecond := toNat_tail (c.toNat / 4096)
        refine ⟨offset + 4, ?_⟩
        simp only [List.cons_append, List.nil_append]
        rw [decodeFrom_four _ _ (by omega) (isTail_tail _) (isTail_tail _) (isTail_tail _) (by omega)
          (by omega)]
        simp only [hLead, toNat_tail]
        rw [hChar (by omega)]

theorem decodeFrom_encode (offset : Nat) (cs : List Char) :
    decodeFrom offset none (encodeUtf8 cs) = .ok cs := by
  induction cs generalizing offset with
  | nil => rfl
  | cons c cs ih =>
    obtain ⟨behind, hStep⟩ := decodeFrom_encodeChar offset c (encodeUtf8 cs)
    rw [encodeUtf8_cons, hStep, ih]
    rfl

theorem decodeUtf8_encodeUtf8 (cs : List Char) : decodeUtf8 (encodeUtf8 cs) = .ok cs :=
  decodeFrom_encode 0 cs

/-! ## Line feeds -/

def newlineByte : UInt8 := 0x0A

theorem ne_newlineByte {n : Nat} (hByte : n < 0x100) (hNe : n ≠ 0x0A) :
    newlineByte ≠ UInt8.ofNat n := by
  intro hSame
  apply hNe
  rw [← toNat_byte hByte, ← hSame]
  rfl

theorem encodeChar_newline : String.utf8EncodeChar '\n' = [newlineByte] := rfl

theorem newlineByte_notMem_encodeChar {c : Char} (h : c ≠ '\n') :
    newlineByte ∉ String.utf8EncodeChar c := by
  have hNat : c.val.toNat = c.toNat := rfl
  have hOther : c.toNat ≠ 0x0A := fun hSame => h (Char.toNat_inj.mp hSame)
  have hTail (n : Nat) : newlineByte ≠ UInt8.ofNat (n % 64 + 128) :=
    ne_newlineByte (by omega) (by omega)
  unfold String.utf8EncodeChar
  simp only [hNat]
  split
  · simpa using ne_newlineByte (by omega) hOther
  · split
    · simp only [List.mem_cons, List.not_mem_nil, or_false, not_or]
      exact ⟨ne_newlineByte (by omega) (by omega), hTail _⟩
    · split
      · simp only [List.mem_cons, List.not_mem_nil, or_false, not_or]
        exact ⟨ne_newlineByte (by omega) (by omega), hTail _, hTail _⟩
      · simp only [List.mem_cons, List.not_mem_nil, or_false, not_or]
        exact ⟨ne_newlineByte (by omega) (by omega), hTail _, hTail _, hTail _⟩

theorem newlineByte_notMem_encodeUtf8 {cs : List Char} (h : '\n' ∉ cs) :
    newlineByte ∉ encodeUtf8 cs := by
  intro hMem
  obtain ⟨c, hChar, hByte⟩ := List.mem_flatMap.mp hMem
  exact newlineByte_notMem_encodeChar (fun hSame => h (hSame ▸ hChar)) hByte

theorem count_newlineByte (cs : List Char) :
    (encodeUtf8 cs).count newlineByte = cs.count '\n' := by
  induction cs with
  | nil => rfl
  | cons c cs ih =>
    rw [encodeUtf8_cons, List.count_append, ih]
    by_cases hNewline : c = '\n'
    · rw [hNewline, encodeChar_newline, List.count_cons_self, List.count_cons_self, List.count_nil,
        Nat.zero_add, Nat.add_comm]
    · rw [List.count_eq_zero.mpr (newlineByte_notMem_encodeChar hNewline), Nat.zero_add,
        List.count_cons_of_ne hNewline]

theorem splitOn_encodeUtf8 (cs : List Char) :
    (encodeUtf8 cs).splitOn newlineByte = (lines cs).map encodeUtf8 := by
  induction cs with
  | nil => rfl
  | cons c cs ih =>
    rw [encodeUtf8_cons, lines]
    by_cases hNewline : c = '\n'
    · rw [hNewline, encodeChar_newline, List.singleton_append, splitOn_cons_self,
        splitOn_cons_self, ih]
      rfl
    · obtain ⟨first, rest, hLines⟩ := List.exists_cons_of_ne_nil (lines_ne_nil cs)
      have hHead : '\n' ∉ [c] := by simpa using Ne.symm hNewline
      have hCons : (c :: cs).splitOn '\n' = (c :: first) :: rest :=
        splitOn_append_of_notMem hHead hLines
      rw [hLines, List.map_cons] at ih
      rw [splitOn_append_of_notMem (newlineByte_notMem_encodeChar hNewline) ih, hCons, List.map_cons,
        encodeUtf8_cons]

end SwiftDerive.Text
