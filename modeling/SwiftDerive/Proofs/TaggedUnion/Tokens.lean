/-! # Words and marks

The statements of generated members consist of words, marks and blanks. The tokens of a text are
those of its parts, wherever no word runs across the seam.
-/

namespace SwiftDerive.TaggedUnion

set_option autoImplicit false

inductive Token where
  | word (text : String)
  | mark (c : Char)
  deriving DecidableEq, Repr

def Token.text : Token → String
  | .word text => text
  | .mark c => String.singleton c

def isMark (c : Char) : Bool :=
  ['(', ')', '.', ',', ':', '='].contains c

def isWordChar (c : Char) : Bool :=
  c != ' ' && !isMark c

def flush (word : List Char) : List Token :=
  if word.isEmpty then [] else [.word (String.ofList word)]

/-- The tokens of a text that starts inside a word. -/
def tokensFrom (word : List Char) : List Char → List Token
  | [] => flush word
  | c :: rest =>
    if isWordChar c then tokensFrom (word ++ [c]) rest
    else if c = ' ' then flush word ++ tokensFrom [] rest
    else flush word ++ .mark c :: tokensFrom [] rest

def tokens (text : List Char) : List Token :=
  tokensFrom [] text

def IsWord (name : String) : Prop :=
  name.toList ≠ [] ∧ name.toList.all isWordChar = true

instance (name : String) : Decidable (IsWord name) :=
  inferInstanceAs (Decidable (_ ∧ _))

def EndsWord (text : List Char) : Prop :=
  text.head?.all (fun c => !isWordChar c) = true

instance (text : List Char) : Decidable (EndsWord text) :=
  inferInstanceAs (Decidable (_ = true))

theorem endsWord_cons_iff (c : Char) (rest : List Char) :
    EndsWord (c :: rest) ↔ isWordChar c = false := by
  simp [EndsWord]

theorem endsWord_cons {c : Char} (h : isWordChar c = false) (rest : List Char) :
    EndsWord (c :: rest) :=
  (endsWord_cons_iff c rest).mpr h

theorem endsWord_append {text : List Char} (hText : text ≠ []) (h : EndsWord text)
    (rest : List Char) : EndsWord (text ++ rest) := by
  cases text with
  | nil => exact absurd rfl hText
  | cons c text => exact endsWord_cons ((endsWord_cons_iff c text).mp h) (text ++ rest)

theorem tokensFrom_append (word text : List Char) {rest : List Char} (hRest : EndsWord rest) :
    tokensFrom word (text ++ rest) = tokensFrom word text ++ tokens rest := by
  induction text generalizing word with
  | nil =>
    cases rest with
    | nil => simp [tokens, tokensFrom, flush]
    | cons c rest =>
      have hEnds : isWordChar c = false := (endsWord_cons_iff c rest).mp hRest
      simp only [List.nil_append, tokens, tokensFrom, hEnds, Bool.false_eq_true, if_false]
      split <;> rfl
  | cons c text ih =>
    simp only [List.cons_append, tokensFrom, ih]
    split
    · rfl
    · split <;> simp

theorem tokens_append (text : List Char) {rest : List Char} (hRest : EndsWord rest) :
    tokens (text ++ rest) = tokens text ++ tokens rest :=
  tokensFrom_append [] text hRest

def Closed (text : List Char) : Prop :=
  text ≠ [] ∧ text.getLast?.all (fun c => !isWordChar c) = true

instance (text : List Char) : Decidable (Closed text) :=
  inferInstanceAs (Decidable (_ ∧ _))

theorem tokensFrom_append_of_closed (word : List Char) {text : List Char} (h : Closed text)
    (rest : List Char) : tokensFrom word (text ++ rest) = tokensFrom word text ++ tokens rest := by
  induction text generalizing word with
  | nil => exact absurd rfl h.1
  | cons c text ih =>
    -- Only the last character has to end the word, so the single character is the base.
    cases text with
    | nil =>
      have hEnds : isWordChar c = false := by simpa using h.2
      simp only [List.cons_append, List.nil_append, tokensFrom, hEnds, Bool.false_eq_true, if_false]
      split <;> simp [tokens, flush]
    | cons c' text =>
      have hTail : Closed (c' :: text) := ⟨List.cons_ne_nil _ _, by simpa [Closed] using h.2⟩
      have hNext := fun word => ih word hTail
      rw [List.cons_append, tokensFrom, tokensFrom, hNext, hNext]
      split
      · rfl
      · split <;> simp

theorem tokens_append_of_closed {text : List Char} (h : Closed text) (rest : List Char) :
    tokens (text ++ rest) = tokens text ++ tokens rest :=
  tokensFrom_append_of_closed [] h rest

theorem tokens_blank (rest : List Char) : tokens (' ' :: rest) = tokens rest := rfl

theorem tokens_mark {c : Char} (h : isMark c = true) (rest : List Char) :
    tokens (c :: rest) = .mark c :: tokens rest := by
  have hWord : isWordChar c = false := by simp [isWordChar, h]
  have hBlank : c ≠ ' ' := by
    rintro rfl
    simp [isMark] at h
  simp [tokens, tokensFrom, hWord, hBlank, flush]

theorem tokensFrom_of_wordChars (word : List Char) {text : List Char}
    (h : ∀ c ∈ text, isWordChar c = true) : tokensFrom word text = flush (word ++ text) := by
  induction text generalizing word with
  | nil => simp [tokensFrom]
  | cons c text ih =>
    obtain ⟨hHead, hTail⟩ := List.forall_mem_cons.mp h
    rw [tokensFrom, if_pos hHead, ih _ hTail, List.append_assoc, List.singleton_append]

theorem tokens_word {name : String} (h : IsWord name) : tokens name.toList = [.word name] := by
  rw [tokens, tokensFrom_of_wordChars [] (List.all_eq_true.mp h.2), List.nil_append, flush, if_neg (by simpa using h.1),
    String.ofList_toList]

theorem text_tokensFrom (word : List Char) {text : List Char} (h : ' ' ∉ text) :
    ((tokensFrom word text).map Token.text).flatMap String.toList = word ++ text := by
  have hFlush : ∀ word, ((flush word).map Token.text).flatMap String.toList = word := by
    intro word
    cases word with
    | nil => rfl
    | cons c cs => simp [flush, Token.text]
  induction text generalizing word with
  | nil => simp [tokensFrom, hFlush]
  | cons c text ih =>
    obtain ⟨hHead, hTail⟩ := not_or.mp (mt List.mem_cons.mpr h)
    rw [tokensFrom, if_neg (Ne.symm hHead)]
    split
    · rw [ih _ hTail, List.append_assoc, List.singleton_append]
    · rw [List.map_append, List.flatMap_append, hFlush, List.map_cons, List.flatMap_cons, ih _ hTail]
      simp [Token.text]

end SwiftDerive.TaggedUnion
