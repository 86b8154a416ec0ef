import SwiftDerive.Proofs.TypeText.Parts

/-! # Types are told apart by their text

Every canonical type is read back from its text, by induction on the type: marks go on behind a
unit, everything else ends where the type ends.
-/

namespace SwiftDerive

set_option autoImplicit false

namespace TypeText

variable {v : Vocabulary}

/-! ## The start of a type -/

variable (v) in
inductive Opens : List Char → Prop where
  | parenthesis (rest : List Char) : Opens ('(' :: rest)
  | bracket (rest : List Char) : Opens ('[' :: rest)
  | name {name : String} {rest : List Char} (hName : v.IsName name) (hRest : EndsWord rest) :
    Opens (name.toList ++ rest)

theorem Opens.head_ne {cs : List Char} (h : Opens v cs) : cs.head? ≠ some ')' := by
  cases h with
  | parenthesis rest => simp
  | bracket rest => simp
  | name hName hRest =>
    exact head_ne_of_isTypeWord (isTypeWord_of_isName hName) (by decide) _

theorem isAttributed_of_takesMember {t : TypeRef} (h : t.takesMember = true) :
    t.isAttributed = false := by
  cases t <;> first | rfl | cases h

theorem isAttributed_of_needsParentheses {t : TypeRef} (h : t.needsParentheses = false) :
    t.isAttributed = false := by
  cases t <;> first | rfl | cases h

theorem opens_chars {t : TypeRef} (hCanonical : v.Canonical t) (hPlain : t.isAttributed = false)
    {rest : List Char} (hRest : EndsWord rest) : Opens v (chars t ++ rest) := by
  induction hCanonical generalizing rest with
  | @intro t hAdmits _ ih =>
    have hMarked : ∀ p ∈ t.parts, ∀ rest, EndsWord rest → Opens v (markedChars p ++ rest) := by
      intro p hp rest hRest
      rw [markedChars]
      split
      · exact .parenthesis _
      · rename_i hNeeds
        have hPart := isAttributed_of_needsParentheses (Bool.not_eq_true _ ▸ hNeeds)
        exact ih p hp hPart hRest
    cases t with
    | named name ts =>
      rw [chars_named, List.append_assoc]
      exact .name hAdmits (endsWord_arguments ts hRest)
    | member base name ts =>
      obtain ⟨-, -, -, hBase⟩ := hAdmits
      rw [chars_member, List.append_assoc]
      exact ih base List.mem_cons_self (isAttributed_of_takesMember hBase)
        (endsWord_cons (by decide) _)
    | optional wrapped implicit =>
      rw [chars_optional, List.append_assoc]
      refine hMarked wrapped List.mem_cons_self _ (endsWord_cons ?_ _)
      cases implicit <;> decide
    | array element =>
      rw [chars_array]
      exact .bracket _
    | dictionary key value =>
      rw [chars_dictionary]
      exact .bracket _
    | tuple es =>
      rw [chars_tuple]
      exact .parenthesis _
    | function ps result isAsync isThrowing thrown =>
      rw [chars_function]
      exact .parenthesis _
    | attributed specifiers base => cases hPlain
    | composition ts =>
      obtain ⟨hLength, hUnits⟩ := hAdmits
      cases ts with
      | nil => simp at hLength
      | cons t ts =>
        have hUnit := isAttributed_of_needsParentheses (hUnits t List.mem_cons_self)
        have hFirst : ∀ {rest}, EndsWord rest → Opens v (chars t ++ rest) :=
          ih t List.mem_cons_self hUnit
        cases ts with
        | nil => simp at hLength
        | cons t' ts =>
          simp only [chars_composition, List.map_cons, List.intercalate_cons_cons, List.append_assoc]
          exact hFirst (endsWord_cons (by decide) _)
    | metatype base kind =>
      rw [chars_metatype, List.append_assoc]
      exact hMarked base List.mem_cons_self _ (endsWord_cons (by decide) _)

theorem head_chars_ne {t : TypeRef} (hCanonical : v.Canonical t) {rest : List Char}
    (hRest : EndsWord rest) : (chars t ++ rest).head? ≠ some ')' := by
  cases hPlain : t.isAttributed with
  | false => exact (opens_chars hCanonical hPlain hRest).head_ne
  | true =>
    cases t with
    | attributed specifiers base =>
      obtain ⟨⟨hNonempty, hSpecifiers, -⟩, -⟩ := hCanonical
      cases specifiers with
      | nil => exact absurd rfl hNonempty
      | cons s specifiers =>
        have hWord := isTypeWord_of_isSpecifier (hSpecifiers s List.mem_cons_self)
        rw [chars_attributed hNonempty, specifierChars, List.flatMap_cons, List.append_assoc,
          List.append_assoc, List.append_assoc]
        exact head_ne_of_isTypeWord hWord (by decide) _
    | _ => cases hPlain

variable [DecidablePred v.IsSpecifier]

theorem Opens.specifier?_eq_none {cs : List Char} (h : Opens v cs) : specifier? v cs = none := by
  cases h with
  | parenthesis rest => rw [specifier?, splitWord_mark (by decide)]; simp
  | bracket rest => rw [specifier?, splitWord_mark (by decide)]; simp
  | name hName hRest => exact specifier?_name hName hRest

/-! ## Units -/

variable (v) in
/-- Whatever the marks behind the type make of it is read from its text with them. -/
def ReadsUnit (t : TypeRef) : Prop :=
  ∀ rest out, Follows rest → Eventually (fun n => readMarks v n t rest) out →
    Eventually (fun n => readUnit v n (markedChars t ++ rest)) out

variable (v) in
structure Readable (t : TypeRef) : Prop where
  type : ReadsType v t
  unit : ReadsUnit v t

theorem readsElement_of_canonical {e : TupleElement TypeRef} (hElement : v.AdmitsElement e)
    (hCanonical : v.Canonical e.type) (hType : ReadsType v e.type) : ReadsElement v e where
  admits := hElement
  type := hType
  head := by
    intro tail hTail
    obtain ⟨t, label, second, variadic⟩ := e
    cases label with
    | none =>
      have hEnds := (endsType_dots_append (v := v) hTail variadic).word
      simpa [elementChars, labelChars] using head_chars_ne hCanonical hEnds
    | some label =>
      have hLabel := isTypeWord_of_isName (hElement.label label rfl)
      rw [elementChars, labelChars, List.append_assoc, List.append_assoc]
      exact head_ne_of_isTypeWord hLabel (by decide) _

theorem readUnit_elements {es : List (TupleElement TypeRef)} (hElements : ∀ e ∈ es, ReadsElement v e)
    {rest : List Char} (hRest : Follows rest) {out : TypeRef × List Char}
    (hMarks : Eventually (fun n => readMarks v n (unwrapped es) rest) out) :
    Eventually (fun n => readUnit v n (parenthesized es ++ rest)) out := by
  have hText : parenthesized es ++ rest = '(' :: (commas (es.map elementChars) ++ ')' :: rest) := by
    simp [parenthesized]
  rw [hText]
  have hRead := readElements_append hElements rest
  refine Eventually.step (fun n => by rw [readUnit]) (hRead.bind ?_)
  simpa only [hRest.arrow, readParenthesized] using hMarks

theorem readsType_of_unit {t : TypeRef} (hCanonical : v.Canonical t)
    (hPlain : t.needsParentheses = false) (hUnit : ReadsUnit v t) : ReadsType v t := by
  intro rest hRest
  have hOpens := opens_chars hCanonical (isAttributed_of_needsParentheses hPlain) hRest.word
  have hRead := hUnit rest (t, rest) hRest.toFollows (readMarks_stop v hRest.marks t)
  rw [markedChars_of_plain hPlain] at hRead
  exact readType_of_units hOpens.specifier?_eq_none (ReadsItems.last hRead hRest.units)

theorem readsUnit_of_type {t : TypeRef} (hCanonical : v.Canonical t)
    (hNeeds : t.needsParentheses = true) (hType : ReadsType v t) : ReadsUnit v t := by
  intro rest out hRest hMarks
  have hBare : v.AdmitsElement ⟨t, none, none, false⟩ :=
    ⟨by simp, by simp, fun h => absurd rfl h⟩
  have hElement := readsElement_of_canonical hBare hCanonical hType
  have hText : markedChars t = parenthesized [⟨t, none, none, false⟩] := by
    simp [markedChars, hNeeds, parenthesized, elementChars, labelChars, dots, commas]
  rw [hText]
  exact readUnit_elements (by simpa using hElement) hRest hMarks

/-! ## Every kind of type -/

theorem readsUnit_member {base : TypeRef} {name : String} {ts : List TypeRef}
    (hAdmits : v.Admits (.member base name ts)) (hBase : ReadsUnit v base)
    (hTypes : ∀ t ∈ ts, ReadsType v t) : ReadsUnit v (.member base name ts) := by
  intro rest out hRest hMarks
  obtain ⟨hName, hType, hProtocol, hTakes⟩ := hAdmits
  have hWord := isTypeWord_of_isName hName
  have hSplit := splitWord_append hWord (endsWord_arguments ts hRest.word)
  have hText : markedChars (.member base name ts) ++ rest =
      markedChars base ++ '.' :: (name.toList ++ (argumentChars ts ++ rest)) := by
    have hPlain : base.needsParentheses = false := by
      cases base <;> first | rfl | cases hTakes
    rw [markedChars_of_plain rfl, markedChars_of_plain hPlain, chars_member]
    simp
  rw [hText]
  refine hBase _ out (follows_cons (by decide) (by decide) (by decide) _) ?_
  refine Eventually.step (fun n => ?_) ((readArguments_append hRest.toEndsName hTypes).bind
    (k := fun n p => readMarks v n (.member base name p.1) p.2) hMarks)
  rw [readMarks, hSplit, if_neg hWord.ne_empty, if_neg (not_or.mpr ⟨hType, hProtocol⟩)]

theorem readsUnit_optional {wrapped : TypeRef} (implicit : Bool) (hWrapped : ReadsUnit v wrapped) :
    ReadsUnit v (.optional wrapped implicit) := by
  intro rest out hRest hMarks
  have hText : markedChars (.optional wrapped implicit) ++ rest =
      markedChars wrapped ++ (if implicit then '!' else '?') :: rest := by
    rw [markedChars_of_plain rfl, chars_optional, List.append_assoc, List.singleton_append]
  rw [hText]
  cases implicit with
  | true =>
    refine hWrapped _ out (follows_cons (by decide) (by decide) (by decide) _) ?_
    exact Eventually.step (fun n => by rw [if_pos rfl, readMarks]) hMarks
  | false =>
    refine hWrapped _ out (follows_cons (by decide) (by decide) (by decide) _) ?_
    exact Eventually.step (fun n => by rw [if_neg (by simp), readMarks]) hMarks

theorem readsUnit_metatype {base : TypeRef} {kind : String}
    (hKind : kind = "Type" ∨ kind = "Protocol") (hBase : ReadsUnit v base) : ReadsUnit v (.metatype base kind) := by
  intro rest out hRest hMarks
  have hWord : IsTypeWord kind := by
    rcases hKind with rfl | rfl
    · exact ⟨by decide, by decide +kernel⟩
    · exact ⟨by decide, by decide +kernel⟩
  have hSplit := splitWord_append hWord hRest.word
  have hText : markedChars (.metatype base kind) ++ rest =
      markedChars base ++ '.' :: (kind.toList ++ rest) := by
    rw [markedChars_of_plain rfl, chars_metatype, List.append_assoc, List.cons_append]
  rw [hText]
  refine hBase _ out (follows_cons (by decide) (by decide) (by decide) _) ?_
  refine Eventually.step (fun n => ?_) hMarks
  rw [readMarks, hSplit, if_neg hWord.ne_empty, if_pos hKind]

theorem readsUnit_array {element : TypeRef} (hElement : ReadsType v element) :
    ReadsUnit v (.array element) := by
  intro rest out hRest hMarks
  have hRead := hElement (']' :: rest) (endsType_cons v (by decide) rest)
  have hText : markedChars (.array element) ++ rest = '[' :: (chars element ++ ']' :: rest) := by
    rw [markedChars_of_plain rfl, chars_array]
    simp
  rw [hText]
  exact Eventually.step (fun n => by rw [readUnit]) (hRead.bind hMarks)

theorem readsUnit_dictionary {key value : TypeRef} (hKey : ReadsType v key)
    (hValue : ReadsType v value) : ReadsUnit v (.dictionary key value) := by
  intro rest out hRest hMarks
  have hReadValue := hValue (']' :: rest) (endsType_cons v (by decide) rest)
  have hReadKey := hKey (':' :: ' ' :: (chars value ++ ']' :: rest)) (endsType_cons v (by decide) _)
  have hText : markedChars (.dictionary key value) ++ rest =
      '[' :: (chars key ++ ':' :: ' ' :: (chars value ++ ']' :: rest)) := by
    rw [markedChars_of_plain rfl, chars_dictionary]
    simp
  rw [hText]
  exact Eventually.step (fun n => by rw [readUnit]) (hReadKey.bind (hReadValue.bind hMarks))

theorem readsUnit_tuple {es : List (TupleElement TypeRef)} (hElements : ∀ e ∈ es, ReadsElement v e)
    (hBare : ∀ e, es = [e] → ¬ e.IsBare) : ReadsUnit v (.tuple es) := by
  intro rest out hRest hMarks
  have hUnwrapped : unwrapped es = .tuple es := by
    rw [unwrapped.eq_def]
    split
    · exact absurd ⟨rfl, rfl⟩ (hBare _ rfl)
    · rfl
  rw [markedChars_of_plain rfl, chars_tuple]
  exact readUnit_elements hElements hRest (by rwa [hUnwrapped])

theorem readsType_function {ps : List (TupleElement TypeRef)} {result : TypeRef}
    {isThrowing : Bool} {thrown : Option TypeRef} (isAsync : Bool)
    (hParameters : ∀ p ∈ ps, ReadsElement v p) (hResult : ReadsType v result)
    (hThrows : thrown ≠ none → isThrowing = true) (hThrown : ∀ t, thrown = some t → ReadsType v t) :
    ReadsType v (.function ps result isAsync isThrowing thrown) := by
  intro rest hRest
  have hText : chars (.function ps result isAsync isThrowing thrown) ++ rest =
      '(' :: (commas (ps.map elementChars) ++ ')' ::
        (effectChars isAsync isThrowing thrown ++ (arrowText ++ (chars result ++ rest)))) := by
    simp [chars_function, parenthesized]
  have hElements := readElements_append hParameters
    (effectChars isAsync isThrowing thrown ++ (arrowText ++ (chars result ++ rest)))
  have hArrow := readArrow_append hThrows hThrown isAsync (chars result ++ rest)
  rw [hText]
  refine readType_of_units (Opens.parenthesis (v := v) _).specifier?_eq_none
    (ReadsItems.last ?_ hRest.units)
  refine Eventually.step (fun n => by rw [readUnit]) (hElements.bind ?_)
  refine hArrow.continue_with
    (k := fun n => readParenthesized (readType v n) (readMarks v n) ps _) ?_
  exact (hResult rest hRest).bind (Eventually.of_eq fun _ => rfl)

theorem attributedWith_cons (s : String) (specifiers : List String) (base : TypeRef) :
    (base.attributedWith specifiers).attributedWith [s] = base.attributedWith (s :: specifiers) := by
  cases specifiers <;> cases base <;> rfl

/-- Specifiers are read one by one, and each is put before those behind it. -/
theorem readType_specifiers {specifiers : List String} {base : TypeRef}
    (hSpecifiers : ∀ s ∈ specifiers, v.IsSpecifier s) (hBase : ReadsType v base)
    {rest : List Char} (hRest : EndsType v rest) :
    Eventually (fun n => readType v n (specifierChars specifiers ++ (chars base ++ rest)))
      (base.attributedWith specifiers, rest) := by
  induction specifiers with
  | nil => exact hBase rest hRest
  | cons s specifiers ih =>
    obtain ⟨hFirst, hMore⟩ := List.forall_mem_cons.mp hSpecifiers
    have hWord := isTypeWord_of_isSpecifier hFirst
    have hText : specifierChars (s :: specifiers) ++ (chars base ++ rest) =
        s.toList ++ ' ' :: (specifierChars specifiers ++ (chars base ++ rest)) := by
      simp [specifierChars]
    have hSplit := splitWord_append hWord (endsWord_cons (c := ' ') (by decide)
      (specifierChars specifiers ++ (chars base ++ rest)))
    rw [hText, ← attributedWith_cons]
    refine Eventually.step (fun n => ?_) ((ih hMore).bind
      (k := fun _ p => some (p.1.attributedWith [s], p.2)) (Eventually.of_eq fun _ => rfl))
    simp only [readType, specifier?, hSplit, if_pos hFirst]

theorem readsType_attributed {specifiers : List String} {base : TypeRef}
    (hAdmits : v.Admits (.attributed specifiers base)) (hBase : ReadsType v base) :
    ReadsType v (.attributed specifiers base) := by
  intro rest hRest
  obtain ⟨hNonempty, hSpecifiers, hPlain⟩ := hAdmits
  have hJoined : base.attributedWith specifiers = .attributed specifiers base := by
    cases specifiers with
    | nil => exact absurd rfl hNonempty
    | cons s specifiers => cases base <;> first | rfl | cases hPlain
  rw [chars_attributed hNonempty, List.append_assoc, ← hJoined]
  exact readType_specifiers hSpecifiers hBase hRest

theorem readsType_composition {ts : List TypeRef} (hCanonical : v.Canonical (.composition ts))
    (hUnits : ∀ t ∈ ts, ReadsUnit v t) : ReadsType v (.composition ts) := by
  intro rest hRest
  obtain ⟨⟨hLength, hPlain⟩, -⟩ := id hCanonical
  have hNonempty : ts ≠ [] := by
    rintro rfl
    simp at hLength
  have hItems : ReadsItems (readUnit v) ampersand (chars (.composition ts) ++ rest) ts rest := by
    rw [chars_composition]
    refine ReadsItems.intercalate hNonempty hRest.units ?_
    intro t ht tail hTail
    rw [← markedChars_of_plain (hPlain t ht)]
    rcases hTail with rfl | ⟨tail, rfl⟩
    · exact hUnits t ht tail _ hRest.toFollows (readMarks_stop v hRest.marks t)
    · exact hUnits t ht _ _ (follows_ampersand tail) (readMarks_stop v (endsMarks_ampersand v tail) t)
  have hUnited : united ts = .composition ts := by
    rw [united.eq_def]
    split
    · simp at hLength
    · rfl
  have hRead := readType_of_units (opens_chars hCanonical rfl hRest.word).specifier?_eq_none hItems
  rwa [hUnited] at hRead

/-- Every canonical type is read back, and with the marks behind it. -/
theorem readable {t : TypeRef} (hCanonical : v.Canonical t) : Readable v t := by
  induction hCanonical with
  | @intro t hAdmits hParts ih =>
    have hCanonical : v.Canonical t := .intro hAdmits hParts
    have ofUnit : t.needsParentheses = false → ReadsUnit v t → Readable v t := by
      intro hPlain hUnit
      exact ⟨readsType_of_unit hCanonical hPlain hUnit, hUnit⟩
    have ofType : t.needsParentheses = true → ReadsType v t → Readable v t := by
      intro hNeeds hType
      exact ⟨hType, readsUnit_of_type hCanonical hNeeds hType⟩
    cases t with
    | named name ts =>
      refine ofUnit rfl ?_
      intro rest out hRest hMarks
      exact readUnit_named hAdmits (fun t ht => (ih t ht).type) hRest.toEndsName hMarks
    | member base name ts =>
      have hBase := ih base List.mem_cons_self
      have hTypes := fun t ht => (ih t (List.mem_cons_of_mem base ht)).type
      exact ofUnit rfl (readsUnit_member hAdmits hBase.unit hTypes)
    | optional wrapped implicit =>
      have hWrapped := ih wrapped List.mem_cons_self
      exact ofUnit rfl (readsUnit_optional implicit hWrapped.unit)
    | array element =>
      have hElement := ih element List.mem_cons_self
      exact ofUnit rfl (readsUnit_array hElement.type)
    | dictionary key value =>
      have hKey := ih key List.mem_cons_self
      have hValue := ih value (List.mem_cons_of_mem key List.mem_cons_self)
      exact ofUnit rfl (readsUnit_dictionary hKey.type hValue.type)
    | tuple es =>
      obtain ⟨hElements, hBare⟩ := hAdmits
      refine ofUnit rfl (readsUnit_tuple (fun e he => ?_) hBare)
      have hPart : e.type ∈ es.map TupleElement.type := List.mem_map_of_mem he
      exact readsElement_of_canonical (hElements e he) (hParts e.type hPart) (ih e.type hPart).type
    | function ps result isAsync isThrowing thrown =>
      obtain ⟨hParameters, hThrows⟩ := hAdmits
      have hResult := ih result (by simp [TypeRef.parts])
      refine ofType rfl (readsType_function isAsync (fun p hp => ?_) hResult.type hThrows ?_)
      · have hPart : p.type ∈ (TypeRef.function ps result isAsync isThrowing thrown).parts :=
          List.mem_append_left _ (List.mem_map_of_mem hp)
        exact readsElement_of_canonical (hParameters p hp) (hParts p.type hPart) (ih p.type hPart).type
      · rintro t rfl
        exact (ih t (by simp [TypeRef.parts])).type
    | attributed specifiers base =>
      have hBase := ih base List.mem_cons_self
      exact ofType rfl (readsType_attributed hAdmits hBase.type)
    | composition ts =>
      exact ofType rfl (readsType_composition hCanonical fun t ht => (ih t ht).unit)
    | metatype base kind =>
      have hBase := ih base List.mem_cons_self
      exact ofUnit rfl (readsUnit_metatype hAdmits hBase.unit)

end TypeText

namespace Vocabulary

/-- Canonical types with one text are one type. -/
theorem eq_of_render_eq {v : Vocabulary} {t u : TypeRef} (ht : v.Canonical t) (hu : v.Canonical u)
    (hText : t.render = u.render) : t = u := by
  classical
  have hFirst := (TypeText.readable ht).type [] (TypeText.endsType_nil v)
  have hSecond := (TypeText.readable hu).type [] (TypeText.endsType_nil v)
  have hChars : TypeText.chars t = TypeText.chars u := congrArg String.toList hText
  rw [hChars] at hFirst
  exact (Prod.mk.inj (hFirst.unique hSecond)).1

def callback : TypeRef :=
  .function [⟨.optional (.named "Int" []) false, some "_", some "value", false⟩]
    (.array (.named "String" [])) true true none

theorem canonical_named {v : Vocabulary} {name : String} (hName : v.IsName name) :
    v.Canonical (.named name []) :=
  .intro hName (List.forall_mem_nil _)

theorem canonical_callback {v : Vocabulary}
    (hNames : ∀ name ∈ ["Int", "String", "_", "value"], v.IsName name) : v.Canonical callback := by
  simp only [List.forall_mem_cons] at hNames
  obtain ⟨hInt, hString, hLabel, hSecond, -⟩ := hNames
  have hParameter :
      v.AdmitsElement ⟨.optional (.named "Int" []) false, some "_", some "value", false⟩ := by
    refine ⟨?_, ?_, fun _ => Option.some_ne_none "_"⟩
    · rintro label ⟨⟩
      exact hLabel
    · rintro second ⟨⟩
      exact hSecond
  refine .intro ⟨by simpa using hParameter, fun h => absurd rfl h⟩ ?_
  simp only [callback, TypeRef.parts, List.map_cons, List.map_nil, List.singleton_append,
    Option.toList_none, List.forall_mem_cons]
  refine ⟨.intro trivial ?_, .intro trivial ?_, List.forall_mem_nil _⟩
  · simpa [TypeRef.parts] using canonical_named hInt
  · simpa [TypeRef.parts] using canonical_named hString

theorem eq_of_render_eq_callback :
    (TypeRef.attributed ["@escaping", "@Sendable"] callback).render =
        "@escaping @Sendable (_ value: Int?) async throws -> [String]" ∧
      TypeRef.attributed ["@escaping", "@Sendable"] callback =
        (callback.attributedWith ["@Sendable"]).attributedWith ["@escaping"] := by
  have hNames : ∀ name ∈ ["Int", "String", "_", "value"],
      IsNameWord name ∧ name ∉ ["inout"] := by decide +kernel
  have hSpecifiers : ∀ s ∈ ["@escaping", "@Sendable"],
      IsSpecifierWord s ∧ (s.toList.head? = some '@' ∨ s ∈ ["inout"]) := by decide +kernel
  have hCallback : (reserving ["inout"]).Canonical callback := canonical_callback hNames
  have hCanonical : (reserving ["inout"]).Canonical
      (.attributed ["@escaping", "@Sendable"] callback) :=
    .intro ⟨List.cons_ne_nil _ _, hSpecifiers, rfl⟩ (by simpa [TypeRef.parts] using hCallback)
  exact ⟨by decide +kernel, eq_of_render_eq hCanonical hCanonical rfl⟩

end Vocabulary

end SwiftDerive
