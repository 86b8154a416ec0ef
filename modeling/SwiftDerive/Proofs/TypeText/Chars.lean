import Mathlib.Data.List.Basic
import SwiftDerive.Proofs.TypeText.Reader

/-! # The characters of types

The text of a type as characters, one equation for each kind of type, and where words end in it.
-/

namespace SwiftDerive.TypeText

set_option autoImplicit false

/-! ## Words -/

def marks : List Char := [' ', '(', ')', '[', ']', '<', '>', ',', ':', '.', '?', '!', '&']

theorem isTypeChar_of_mem_marks {c : Char} (h : c ∈ marks) : isTypeChar c = false := by
  have hAll : marks.all (fun c => !isTypeChar c) = true := by decide +kernel
  simpa using List.all_eq_true.mp hAll c h

def IsTypeWord (word : String) : Prop :=
  word.toList ≠ [] ∧ word.toList.all isTypeChar = true

theorem IsTypeWord.ne_empty {word : String} (h : IsTypeWord word) : word ≠ "" := by
  rintro rfl
  exact h.1 rfl

theorem isTypeWord_of_isName {v : Vocabulary} {name : String} (h : v.IsName name) :
    IsTypeWord name := by
  obtain ⟨hNonempty, hChars⟩ := v.isNameWord name h
  refine ⟨hNonempty, List.all_eq_true.mpr ?_⟩
  intro c hc
  have hWord := List.all_eq_true.mp hChars c hc
  simp [isTypeChar, hWord]

theorem isTypeWord_of_isSpecifier {v : Vocabulary} {word : String} (h : v.IsSpecifier word) :
    IsTypeWord word := by
  obtain ⟨hNonempty, hChars⟩ := v.isSpecifierWord word h
  refine ⟨hNonempty, List.all_eq_true.mpr ?_⟩
  intro c hc
  by_cases hAt : c = '@'
  · simp [isTypeChar, hAt]
  · have hRest : c ∈ if word.toList.head? = some '@' then word.toList.tail else word.toList := by
      split
      · rename_i hHead
        obtain ⟨rest, hList⟩ := List.head?_eq_some_iff.mp hHead
        simpa [hList, hAt] using hc
      · exact hc
    have hWord := List.all_eq_true.mp hChars c hRest
    simp [isTypeChar, hWord]

def EndsWord (rest : List Char) : Prop :=
  ∀ c ∈ rest.head?, isTypeChar c = false

theorem endsWord_nil : EndsWord [] := by
  intro c hc
  cases hc

theorem endsWord_cons {c : Char} (h : c ∈ marks) (rest : List Char) : EndsWord (c :: rest) := by
  intro c' hc'
  obtain rfl : c = c' := Option.some.inj hc'
  exact isTypeChar_of_mem_marks h

theorem splitWord_append {word : String} (hWord : IsTypeWord word) {rest : List Char}
    (hRest : EndsWord rest) : splitWord (word.toList ++ rest) = (word, rest) := by
  have hTake : rest.takeWhile isTypeChar = [] := by
    cases rest with
    | nil => rfl
    | cons c rest => simp [List.takeWhile, hRest c rfl]
  have hDrop : rest.dropWhile isTypeChar = rest := by
    cases rest with
    | nil => rfl
    | cons c rest => simp [List.dropWhile, hRest c rfl]
  have hChars := List.all_eq_true.mp hWord.2
  rw [splitWord, List.takeWhile_append_of_pos hChars, List.dropWhile_append_of_pos hChars, hTake,
    hDrop, List.append_nil, String.ofList_toList]

theorem splitWord_mark {c : Char} (h : c ∈ marks) (rest : List Char) :
    splitWord (c :: rest) = ("", c :: rest) := by
  have hMark := isTypeChar_of_mem_marks h
  simp [splitWord, List.takeWhile, List.dropWhile, hMark]

theorem head_ne_of_isTypeWord {word : String} (hWord : IsTypeWord word) {c : Char} (h : c ∈ marks)
    (rest : List Char) : (word.toList ++ rest).head? ≠ some c := by
  obtain ⟨hNonempty, hChars⟩ := hWord
  cases hList : word.toList with
  | nil => exact absurd hList hNonempty
  | cons c' cs =>
    intro hHead
    obtain rfl : c' = c := Option.some.inj hHead
    have hTypeChar := List.all_eq_true.mp hChars c' (by simp [hList])
    rw [isTypeChar_of_mem_marks h] at hTypeChar
    cases hTypeChar

/-! ## The texts of types -/

def chars (t : TypeRef) : List Char := t.render.toList

def commas (texts : List (List Char)) : List Char := comma.intercalate texts

def argumentChars : List TypeRef → List Char
  | [] => []
  | t :: ts => '<' :: (commas ((t :: ts).map chars) ++ ['>'])

def markedChars (t : TypeRef) : List Char :=
  if t.needsParentheses then '(' :: (chars t ++ [')']) else chars t

def labelEnd : Option String → List Char
  | none => [':', ' ']
  | some second => ' ' :: (second.toList ++ [':', ' '])

def labelChars : Option String → Option String → List Char
  | none, _ => []
  | some label, second => label.toList ++ labelEnd second

def dots (variadic : Bool) : List Char := if variadic then ['.', '.', '.'] else []

def elementChars (e : TupleElement TypeRef) : List Char :=
  labelChars e.label e.secondName ++ (chars e.type ++ dots e.variadic)

def parenthesized (es : List (TupleElement TypeRef)) : List Char :=
  '(' :: (commas (es.map elementChars) ++ [')'])

def thrownChars : Option TypeRef → List Char
  | none => []
  | some t => '(' :: (chars t ++ [')'])

def effectChars (isAsync isThrowing : Bool) (thrown : Option TypeRef) : List Char :=
  (if isAsync then asyncText else []) ++ (if isThrowing then throwsText ++ thrownChars thrown else [])

theorem toList_commaSeparated_map {α : Type} {text : α → String} {spell : α → List Char}
    (h : ∀ a, (text a).toList = spell a) (items : List α) :
    (commaSeparated (items.map text)).toList = commas (items.map spell) := by
  have hSeparator : ", ".toList = comma := rfl
  rw [commaSeparated, String.toList_intercalate, hSeparator, List.map_map, commas]
  congr 2
  exact funext h

theorem toList_angled (ts : List TypeRef) :
    (angled (TypeRef.renderAll ts)).toList = argumentChars ts := by
  rw [TypeRef.renderAll_eq_map]
  cases ts with
  | nil => rfl
  | cons t ts =>
    have hItems : (commaSeparated ((t :: ts).map TypeRef.render)).toList =
        commas ((t :: ts).map chars) := toList_commaSeparated_map (fun _ => rfl) (t :: ts)
    simpa [angled, argumentChars] using hItems

theorem toList_elementText (e : TupleElement TypeRef) :
    (TypeRef.elementText e.label e.secondName e.variadic e.type.render).toList = elementChars e := by
  obtain ⟨t, label, second, variadic⟩ := e
  cases label <;> cases second <;> cases variadic <;>
    simp [TypeRef.elementText, elementChars, labelChars, labelEnd, dots, chars]

theorem toList_parenthesized (es : List (TupleElement TypeRef)) :
    ("(" ++ commaSeparated (TypeRef.renderElements es) ++ ")").toList = parenthesized es := by
  have hMap : TypeRef.renderElements es = es.map fun e =>
      TypeRef.elementText e.label e.secondName e.variadic e.type.render := by
    induction es with
    | nil => rfl
    | cons e es ih => rw [TypeRef.renderElements, ih, List.map_cons]
  have hItems := toList_commaSeparated_map toList_elementText es
  simp [hMap, hItems, parenthesized]

theorem chars_named (name : String) (ts : List TypeRef) :
    chars (.named name ts) = name.toList ++ argumentChars ts := by
  change (name ++ angled (TypeRef.renderAll ts)).toList = _
  rw [String.toList_append, toList_angled]

theorem chars_member (base : TypeRef) (name : String) (ts : List TypeRef) :
    chars (.member base name ts) =
      chars base ++ '.' :: (name.toList ++ argumentChars ts) := by
  change (base.render ++ "." ++ name ++ angled (TypeRef.renderAll ts)).toList = _
  rw [String.toList_append, toList_angled]
  simp [chars]

theorem toList_marked (t : TypeRef) :
    (if t.needsParentheses then "(" ++ t.render ++ ")" else t.render).toList = markedChars t := by
  rw [markedChars]
  split
  · simp [chars]
  · rfl

theorem markedChars_of_plain {t : TypeRef} (h : t.needsParentheses = false) :
    markedChars t = chars t := by
  rw [markedChars, h, if_neg Bool.false_ne_true]

theorem chars_optional (wrapped : TypeRef) (implicit : Bool) :
    chars (.optional wrapped implicit) = markedChars wrapped ++ [if implicit then '!' else '?'] := by
  change ((if wrapped.needsParentheses then "(" ++ wrapped.render ++ ")" else wrapped.render) ++
    if implicit then "!" else "?").toList = _
  rw [String.toList_append, toList_marked]
  cases implicit <;> rfl

theorem chars_array (element : TypeRef) :
    chars (.array element) = '[' :: (chars element ++ [']']) := by
  change ("[" ++ element.render ++ "]").toList = _
  simp [chars]

theorem chars_dictionary (key value : TypeRef) :
    chars (.dictionary key value) = '[' :: (chars key ++ ':' :: ' ' :: (chars value ++ [']'])) := by
  change ("[" ++ key.render ++ ": " ++ value.render ++ "]").toList = _
  simp [chars]

theorem chars_tuple (es : List (TupleElement TypeRef)) :
    chars (.tuple es) = parenthesized es :=
  toList_parenthesized es

theorem chars_function (ps : List (TupleElement TypeRef)) (result : TypeRef)
    (isAsync isThrowing : Bool) (thrown : Option TypeRef) :
    chars (.function ps result isAsync isThrowing thrown) =
      parenthesized ps ++ (effectChars isAsync isThrowing thrown ++ (arrowText ++ chars result)) := by
  change (" ".intercalate (("(" ++ commaSeparated (TypeRef.renderElements ps) ++ ")") ::
    TypeRef.effectWords isAsync isThrowing (TypeRef.renderThrown thrown) ++
      ["-> " ++ result.render])).toList = _
  rw [String.toList_intercalate]
  simp only [List.map_append, List.map_cons, toList_parenthesized]
  cases isAsync <;> cases isThrowing <;> cases thrown <;>
    simp [TypeRef.effectWords, TypeRef.renderThrown, effectChars, thrownChars, asyncText, throwsText,
      arrowText, chars, List.intercalate]

def specifierChars (specifiers : List String) : List Char :=
  specifiers.flatMap fun s => s.toList ++ [' ']

theorem chars_attributed {specifiers : List String} (h : specifiers ≠ []) (base : TypeRef) :
    chars (.attributed specifiers base) = specifierChars specifiers ++ chars base := by
  have hSpecifiers : [' '].intercalate (specifiers.map String.toList) ++ [' '] =
      specifierChars specifiers := by
    induction specifiers with
    | nil => exact absurd rfl h
    | cons s specifiers ih =>
      cases specifiers with
      | nil => simp [specifierChars]
      | cons s' specifiers =>
        have ih := ih (List.cons_ne_nil _ _)
        rw [List.map_cons, List.map_cons, List.intercalate_cons_cons, List.append_assoc,
          ← List.map_cons, ih]
        simp [specifierChars]
  change (" ".intercalate specifiers ++ " " ++ base.render).toList = _
  rw [String.toList_append, String.toList_append, String.toList_intercalate, ← hSpecifiers]
  rfl

theorem chars_composition (ts : List TypeRef) :
    chars (.composition ts) = ampersand.intercalate (ts.map chars) := by
  change (" & ".intercalate (TypeRef.renderAll ts)).toList = _
  rw [String.toList_intercalate, TypeRef.renderAll_eq_map, List.map_map]
  rfl

theorem chars_metatype (base : TypeRef) (kind : String) :
    chars (.metatype base kind) = markedChars base ++ '.' :: kind.toList := by
  change ((if base.needsParentheses then "(" ++ base.render ++ ")" else base.render) ++ "." ++
    kind).toList = _
  rw [String.toList_append, String.toList_append, toList_marked]
  simp

end SwiftDerive.TypeText
