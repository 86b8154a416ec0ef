import SwiftDerive.Proofs.TypeText.Chars

/-! # Reading the parts of types

What may stand behind a type, and how the lists, elements and effects in a type are read back when
the types in them are.
-/

namespace SwiftDerive.TypeText

set_option autoImplicit false

variable (v : Vocabulary) [DecidablePred v.IsSpecifier]

/-! ## What stands behind a type -/

structure EndsName (rest : List Char) : Prop where
  word : EndsWord rest
  arguments : rest.head? ≠ some '<'

structure Follows (rest : List Char) : Prop extends EndsName rest where
  arrow : ∀ read, readArrow read rest = none

def EndsMarks (rest : List Char) : Prop :=
  ∀ n t, readMarks v (n + 1) t rest = some (t, rest)

structure EndsType (rest : List Char) : Prop extends Follows rest where
  marks : EndsMarks v rest
  units : rest.dropPrefix? ampersand = none

theorem follows_cons {c : Char} (hMark : c ∈ marks) (hBlank : c ≠ ' ') (hArguments : c ≠ '<')
    (rest : List Char) : Follows (c :: rest) where
  word := endsWord_cons hMark rest
  arguments := by simpa using hArguments
  arrow := by
    intro read
    simp [readArrow, readThrows, readArrowEnd, List.dropPrefix?, asyncText, throwsText, arrowText,
      hBlank]

theorem endsMarks_cons {c : Char} (h : c ∉ ['?', '!', '.']) (rest : List Char) :
    EndsMarks v (c :: rest) := by
  simp only [List.mem_cons, List.not_mem_nil, or_false, not_or] at h
  obtain ⟨hOptional, hImplicit, hDot⟩ := h
  intro n t
  rw [readMarks]
  all_goals simp_all

theorem endsType_nil : EndsType v [] where
  word := endsWord_nil
  arguments := by simp
  arrow := fun _ => rfl
  marks := fun _ _ => rfl
  units := rfl

def closers : List Char := [')', ']', '>', ',', ':']

theorem endsType_cons {c : Char} (h : c ∈ closers) (rest : List Char) : EndsType v (c :: rest) := by
  have hAll : closers.all (fun c =>
      decide (c ∈ marks ∧ c ≠ ' ' ∧ c ≠ '<' ∧ c ∉ ['?', '!', '.'])) = true := by decide
  obtain ⟨hMark, hBlank, hArguments, hMarks⟩ := of_decide_eq_true (List.all_eq_true.mp hAll c h)
  refine ⟨follows_cons hMark hBlank hArguments rest, endsMarks_cons v hMarks rest, ?_⟩
  simp [List.dropPrefix?, ampersand, hBlank]

theorem endsType_dots (rest : List Char) : EndsType v ('.' :: '.' :: '.' :: rest) where
  toFollows := follows_cons (by decide) (by decide) (by decide) _
  marks := by
    intro n t
    rw [readMarks, splitWord_mark (by decide)]
    rfl
  units := rfl

theorem follows_ampersand (rest : List Char) : Follows (ampersand ++ rest) where
  word := endsWord_cons (by decide) _
  arguments := by simp [ampersand]
  arrow := fun _ => rfl

theorem endsMarks_ampersand (rest : List Char) : EndsMarks v (ampersand ++ rest) :=
  endsMarks_cons v (by decide) _

theorem readMarks_stop {rest : List Char} (h : EndsMarks v rest) (t : TypeRef) :
    Eventually (fun n => readMarks v n t rest) (t, rest) :=
  Eventually.step (fun n => h n t) (Eventually.of_eq fun _ => rfl)

/-! ## Items with a separator -/

/-- The items are read from the text when there are enough steps for their number. -/
def ReadsItems {α : Type} (item : Nat → List Char → Read α) (separator cs : List Char)
    (items : List α) (rest : List Char) : Prop :=
  ∀ᶠ n in Filter.atTop, ∀ k, items.length ≤ k →
    readSeparated (item n) separator k cs = some (items, rest)

namespace ReadsItems

variable {α : Type} {item : Nat → List Char → Read α} {separator cs rest : List Char}

theorem eventually {items : List α} (h : ReadsItems item separator cs items rest) :
    Eventually (fun n => readSeparated (item n) separator n cs) (items, rest) := by
  filter_upwards [h, Filter.eventually_ge_atTop items.length] with n hItems hLength
  exact hItems n hLength

theorem last {a : α} (hItem : Eventually (fun n => item n cs) (a, rest))
    (hRest : rest.dropPrefix? separator = none) : ReadsItems item separator cs [a] rest := by
  filter_upwards [hItem] with n hItem k hLength
  obtain ⟨k, rfl⟩ : ∃ m, k = m + 1 := ⟨k - 1, by simp at hLength; omega⟩
  rw [readSeparated, hItem]
  simp [hRest]

theorem more {a : α} {items : List α} {tail : List Char}
    (hItem : Eventually (fun n => item n cs) (a, separator ++ tail))
    (hMore : ReadsItems item separator tail items rest) :
    ReadsItems item separator cs (a :: items) rest := by
  filter_upwards [hItem, hMore] with n hItem hMore k hLength
  obtain ⟨k, rfl⟩ : ∃ m, k = m + 1 := ⟨k - 1, by simp at hLength; omega⟩
  have hTail := hMore k (by simpa using hLength)
  rw [readSeparated, hItem]
  simp [dropPrefix?_append, hTail]

theorem intercalate {text : α → List Char} {items : List α} (hNonempty : items ≠ [])
    (hRest : rest.dropPrefix? separator = none)
    (hItems : ∀ a ∈ items, ∀ tail, tail = rest ∨ separator <+: tail →
      Eventually (fun n => item n (text a ++ tail)) (a, tail)) :
    ReadsItems item separator (separator.intercalate (items.map text) ++ rest) items rest := by
  induction items with
  | nil => exact absurd rfl hNonempty
  | cons a items ih =>
    have hHead := hItems a List.mem_cons_self
    cases items with
    | nil =>
      simp only [List.map_cons, List.map_nil, List.intercalate_singleton]
      exact last (hHead rest (.inl rfl)) hRest
    | cons b items =>
      have hMore := ih (List.cons_ne_nil _ _) fun a ha => hItems a (List.mem_cons_of_mem _ ha)
      simp only [List.map_cons, List.intercalate_cons_cons, List.append_assoc] at hMore ⊢
      exact more (hHead _ (.inr (List.prefix_append _ _))) hMore

end ReadsItems

/-! ## Parts of types -/

def ReadsType (t : TypeRef) : Prop :=
  ∀ rest, EndsType v rest → Eventually (fun n => readType v n (chars t ++ rest)) (t, rest)

variable {v}

theorem endsType_comma {tail : List Char} (h : comma <+: tail) : EndsType v tail := by
  obtain ⟨rest, rfl⟩ := h
  exact endsType_cons v (by decide) (' ' :: rest)

theorem endsWord_arguments {rest : List Char} (ts : List TypeRef) (h : EndsWord rest) :
    EndsWord (argumentChars ts ++ rest) := by
  cases ts with
  | nil => exact h
  | cons t ts => exact endsWord_cons (by decide) _

theorem readArguments_append {ts : List TypeRef} {rest : List Char} (hRest : EndsName rest)
    (hTypes : ∀ t ∈ ts, ReadsType v t) :
    Eventually (fun n => readArguments (readType v n) n (argumentChars ts ++ rest)) (ts, rest) := by
  cases ts with
  | nil =>
    refine Eventually.of_eq fun n => ?_
    rw [argumentChars, List.nil_append, readArguments.eq_def]
    split
    · exact absurd rfl hRest.arguments
    · rfl
  | cons t ts =>
    have hItems : ReadsItems (readType v) comma (commas ((t :: ts).map chars) ++ '>' :: rest)
        (t :: ts) ('>' :: rest) := by
      refine ReadsItems.intercalate (List.cons_ne_nil _ _) rfl ?_
      rintro a ha tail (rfl | hTail)
      · exact hTypes a ha _ (endsType_cons v (by decide) rest)
      · exact hTypes a ha tail (endsType_comma hTail)
    have hText : argumentChars (t :: ts) ++ rest =
        '<' :: (commas ((t :: ts).map chars) ++ '>' :: rest) := by
      simp [argumentChars]
    rw [hText]
    exact hItems.eventually.bind (Eventually.of_eq fun _ => rfl)

/-! ### Names -/

theorem specifier?_name {name : String} (hName : v.IsName name) {rest : List Char}
    (hRest : EndsWord rest) : specifier? v (name.toList ++ rest) = none := by
  have hWord := isTypeWord_of_isName hName
  rw [specifier?, splitWord_append hWord hRest]
  split
  · rename_i word rest' hSplit
    obtain ⟨rfl, rfl⟩ := Prod.mk.inj hSplit
    exact if_neg (v.disjoint _ hName)
  · rfl

theorem readUnit_named {name : String} (hName : v.IsName name) {ts : List TypeRef}
    (hTypes : ∀ t ∈ ts, ReadsType v t) {rest : List Char} (hRest : EndsName rest)
    {out : TypeRef × List Char}
    (hMarks : Eventually (fun n => readMarks v n (.named name ts) rest) out) :
    Eventually (fun n => readUnit v n (chars (.named name ts) ++ rest)) out := by
  have hWord := isTypeWord_of_isName hName
  have hSplit := splitWord_append hWord (endsWord_arguments ts hRest.word)
  have hParenthesis := head_ne_of_isTypeWord hWord (c := '(') (by decide) (argumentChars ts ++ rest)
  have hBracket := head_ne_of_isTypeWord hWord (c := '[') (by decide) (argumentChars ts ++ rest)
  rw [chars_named, List.append_assoc]
  refine Eventually.step (fun n => ?_) ((readArguments_append hRest hTypes).bind
    (k := fun n p => readMarks v n (.named name p.1) p.2) hMarks)
  rw [readUnit, hSplit]
  · rintro cs hText
    exact hParenthesis (by rw [hText]; rfl)
  · rintro cs hText
    exact hBracket (by rw [hText]; rfl)

theorem readType_of_units {cs rest : List Char} {ts : List TypeRef}
    (hSpecifier : specifier? v cs = none)
    (hUnits : ReadsItems (readUnit v) ampersand cs ts rest) :
    Eventually (fun n => readType v n cs) (united ts, rest) := by
  refine Eventually.step (fun n => ?_) (hUnits.eventually.bind
    (k := fun _ p => some (united p.1, p.2)) (Eventually.of_eq fun _ => rfl))
  rw [readType, hSpecifier]

theorem readType_name {name : String} (hName : v.IsName name) {rest : List Char}
    (hRest : EndsName rest) (hMarks : EndsMarks v rest) (hUnits : rest.dropPrefix? ampersand = none) :
    Eventually (fun n => readType v n (name.toList ++ rest)) (.named name [], rest) := by
  have hUnit : Eventually (fun n => readUnit v n (name.toList ++ rest)) (.named name [], rest) := by
    have hNone : ∀ t ∈ ([] : List TypeRef), ReadsType v t := by simp
    have hRead := readUnit_named hName hNone hRest (readMarks_stop v hMarks _)
    rwa [chars_named, argumentChars, List.append_nil] at hRead
  exact readType_of_units (specifier?_name hName hRest.word) (ReadsItems.last hUnit hUnits)

/-! ### Elements -/

def EndsElement (tail : List Char) : Prop :=
  tail.head? = some ')' ∨ comma <+: tail

theorem endsType_dots_append {tail : List Char} (hTail : EndsElement tail) (variadic : Bool) :
    EndsType v (dots variadic ++ tail) := by
  cases variadic with
  | true => exact endsType_dots v tail
  | false =>
    rcases hTail with hClose | hComma
    · obtain ⟨rest, rfl⟩ := List.head?_eq_some_iff.mp hClose
      exact endsType_cons v (by decide) rest
    · exact endsType_comma hComma

theorem readVariadic_dots {tail : List Char} (hTail : EndsElement tail)
    (label second : Option String) (t : TypeRef) (variadic : Bool) :
    readVariadic label second t (dots variadic ++ tail) = some (⟨t, label, second, variadic⟩, tail) := by
  cases variadic with
  | true => rfl
  | false =>
    rcases hTail with hClose | ⟨rest, rfl⟩
    · obtain ⟨rest, rfl⟩ := List.head?_eq_some_iff.mp hClose
      rfl
    · rfl

theorem label?_dots {tail : List Char} (hTail : EndsElement tail) (t : TypeRef) (variadic : Bool) :
    label? t (dots variadic ++ tail) = none := by
  cases variadic with
  | true => simp [dots, label?]
  | false =>
    rcases hTail with hClose | ⟨rest, rfl⟩
    · obtain ⟨rest, rfl⟩ := List.head?_eq_some_iff.mp hClose
      simp [dots, label?]
    · simp [dots, label?, comma]

omit [DecidablePred v.IsSpecifier] in
theorem label?_labelEnd {second : Option String} (hSecond : ∀ s, second = some s → v.IsName s)
    (label : String) (cs : List Char) :
    label? (.named label []) (labelEnd second ++ cs) = some (label, second, cs) := by
  cases second with
  | none => rfl
  | some s =>
    have hWord := isTypeWord_of_isName (hSecond s rfl)
    have hSplit := splitWord_append hWord (endsWord_cons (c := ':') (by decide) (' ' :: cs))
    simp [labelEnd, label?, hSplit]

theorem readType_label {label : String} (hLabel : v.IsName label) {second : Option String}
    (hSecond : ∀ s, second = some s → v.IsName s) (cs : List Char) :
    Eventually (fun n => readType v n (label.toList ++ (labelEnd second ++ cs)))
      (.named label [], labelEnd second ++ cs) := by
  cases second with
  | none =>
    have hEnds := endsType_cons v (c := ':') (by decide) (' ' :: cs)
    exact readType_name hLabel hEnds.toEndsName hEnds.marks hEnds.units
  | some s =>
    have hWord := isTypeWord_of_isName (hSecond s rfl)
    have hText : labelEnd (some s) ++ cs = ' ' :: (s.toList ++ ':' :: ' ' :: cs) := by
      simp [labelEnd]
    rw [hText]
    refine readType_name hLabel ⟨endsWord_cons (by decide) _, by simp⟩
      (endsMarks_cons v (by decide) _) ?_
    -- No ampersand follows the blank, since the second name does.
    have hHead := head_ne_of_isTypeWord hWord (c := '&') (by decide) (':' :: ' ' :: cs)
    cases hTail : s.toList ++ ':' :: ' ' :: cs with
    | nil => rfl
    | cons c cs =>
      have hDifferent : c ≠ '&' := by simpa [hTail] using hHead
      simp [ampersand, List.dropPrefix?, hDifferent]

theorem readElement_append {e : TupleElement TypeRef} (hElement : v.AdmitsElement e)
    (hType : ReadsType v e.type) {tail : List Char} (hTail : EndsElement tail) :
    Eventually (fun n => readElement (readType v n) (elementChars e ++ tail)) (e, tail) := by
  obtain ⟨t, label, second, variadic⟩ := e
  have hRead := hType (dots variadic ++ tail) (endsType_dots_append hTail variadic)
  cases label with
  | none =>
    have hSecond : second = none := by
      by_contra hSome
      exact hElement.labelled hSome rfl
    subst hSecond
    have hText : elementChars ⟨t, none, none, variadic⟩ ++ tail =
        chars t ++ (dots variadic ++ tail) := by
      simp [elementChars, labelChars]
    rw [hText]
    refine hRead.bind (Eventually.of_eq fun n => ?_)
    simp only [label?_dots hTail, readVariadic_dots hTail]
  | some label =>
    have hText : elementChars ⟨t, some label, second, variadic⟩ ++ tail =
        label.toList ++ (labelEnd second ++ (chars t ++ (dots variadic ++ tail))) := by
      simp [elementChars, labelChars]
    rw [hText]
    -- The label is read as a type first, and the type behind it then.
    refine (readType_label (hElement.label label rfl) hElement.secondName _).bind ?_
    simp only [label?_labelEnd hElement.secondName]
    refine hRead.bind (Eventually.of_eq fun n => ?_)
    exact readVariadic_dots hTail (some label) second t variadic

variable (v) in
structure ReadsElement (e : TupleElement TypeRef) : Prop where
  admits : v.AdmitsElement e
  type : ReadsType v e.type
  head : ∀ tail, EndsElement tail → (elementChars e ++ tail).head? ≠ some ')'

theorem readElements_append {es : List (TupleElement TypeRef)}
    (hElements : ∀ e ∈ es, ReadsElement v e) (rest : List Char) :
    Eventually (fun n => readElements (readType v n) n (commas (es.map elementChars) ++ ')' :: rest))
      (es, rest) := by
  cases es with
  | nil => exact Eventually.of_eq fun n => rfl
  | cons e es =>
    have hItems : ReadsItems (fun n => readElement (readType v n)) comma
        (commas ((e :: es).map elementChars) ++ ')' :: rest) (e :: es) (')' :: rest) := by
      refine ReadsItems.intercalate (List.cons_ne_nil _ _) rfl ?_
      rintro e he tail (rfl | hTail)
      · exact readElement_append (hElements e he).admits (hElements e he).type (.inl rfl)
      · exact readElement_append (hElements e he).admits (hElements e he).type (.inr hTail)
    -- The first element is not taken for the closing parenthesis.
    have hHead : (commas ((e :: es).map elementChars) ++ ')' :: rest).head? ≠ some ')' := by
      have hFirst := (hElements e List.mem_cons_self).head
      cases es with
      | nil => simpa [commas] using hFirst (')' :: rest) (.inl rfl)
      | cons e' es =>
        simp only [commas, List.map_cons, List.intercalate_cons_cons, List.append_assoc]
        exact hFirst _ (.inr (List.prefix_append _ _))
    refine Eventually.congr (fun n => ?_) (hItems.eventually.bind
      (k := fun _ p => closed ')' p.1 p.2)
      (Eventually.of_eq fun _ => rfl))
    rw [readElements.eq_def]
    split
    · rename_i hClose
      rw [hClose] at hHead
      exact absurd rfl hHead
    · rfl

/-! ### Effects -/

theorem readArrowEnd_append (arrow : Arrow) (rest : List Char) :
    readArrowEnd arrow (arrowText ++ rest) = some (arrow, rest) := by
  rw [readArrowEnd, dropPrefix?_append, Option.map_some]

theorem readThrows_append {isThrowing : Bool} {thrown : Option TypeRef}
    (hThrows : thrown ≠ none → isThrowing = true) (hThrown : ∀ t, thrown = some t → ReadsType v t)
    (isAsync : Bool) (rest : List Char) :
    Eventually (fun n => readThrows (readType v n) isAsync
      ((if isThrowing then throwsText ++ thrownChars thrown else []) ++ (arrowText ++ rest)))
      (⟨isAsync, isThrowing, thrown⟩, rest) := by
  cases thrown with
  | none =>
    refine Eventually.of_eq fun n => ?_
    cases isThrowing with
    | false => exact readArrowEnd_append ⟨isAsync, false, none⟩ rest
    | true =>
      rw [if_pos rfl, thrownChars, List.append_nil, readThrows, dropPrefix?_append]
      exact readArrowEnd_append ⟨isAsync, true, none⟩ rest
  | some t =>
    obtain rfl : isThrowing = true := hThrows (Option.some_ne_none t)
    have hRead := hThrown t rfl (')' :: (arrowText ++ rest)) (endsType_cons v (by decide) _)
    have hText : throwsText ++ thrownChars (some t) ++ (arrowText ++ rest) =
        throwsText ++ '(' :: (chars t ++ ')' :: (arrowText ++ rest)) := by
      simp [thrownChars]
    simp only [if_pos, hText, readThrows, dropPrefix?_append]
    exact hRead.bind (Eventually.of_eq fun n => readArrowEnd_append ⟨isAsync, true, some t⟩ rest)

theorem readArrow_append {isThrowing : Bool} {thrown : Option TypeRef}
    (hThrows : thrown ≠ none → isThrowing = true) (hThrown : ∀ t, thrown = some t → ReadsType v t)
    (isAsync : Bool) (rest : List Char) :
    Eventually (fun n => readArrow (readType v n)
      (effectChars isAsync isThrowing thrown ++ (arrowText ++ rest)))
      (⟨isAsync, isThrowing, thrown⟩, rest) := by
  refine Eventually.congr (fun n => ?_) (readThrows_append hThrows hThrown isAsync rest)
  cases isAsync with
  | true => simp only [effectChars, if_pos, List.append_assoc, readArrow, dropPrefix?_append]
  | false => cases isThrowing <;> rfl

end SwiftDerive.TypeText
