import SwiftDerive.Syntax.TypeText
import SwiftDerive.Unicode.Word

/-! # Canonical types

A type is canonical when its names and specifiers are words of two vocabularies that have no word in
common, and when it has no other form with the same text at any depth.
-/

namespace SwiftDerive

set_option autoImplicit false

def IsNameWord (word : String) : Prop :=
  word.toList ≠ [] ∧ word.toList.all Unicode.isWord = true

instance (word : String) : Decidable (IsNameWord word) :=
  inferInstanceAs (Decidable (_ ∧ _))

/-- Some word characters, where the first may be an at sign instead. -/
def IsSpecifierWord (word : String) : Prop :=
  word.toList ≠ [] ∧
    (if word.toList.head? = some '@' then word.toList.tail else word.toList).all Unicode.isWord = true

instance (word : String) : Decidable (IsSpecifierWord word) :=
  inferInstanceAs (Decidable (_ ∧ _))

/-- The words for names and labels, and those for attributes and specifiers of types. -/
structure Vocabulary where
  IsName : String → Prop
  IsSpecifier : String → Prop
  isNameWord : ∀ word, IsName word → IsNameWord word
  isSpecifierWord : ∀ word, IsSpecifier word → IsSpecifierWord word
  disjoint : ∀ word, IsName word → ¬ IsSpecifier word

/-- The vocabulary whose specifiers are these keywords and whatever an at sign stands before. -/
def Vocabulary.reserving (keywords : List String) : Vocabulary where
  IsName word := IsNameWord word ∧ word ∉ keywords
  IsSpecifier word := IsSpecifierWord word ∧ (word.toList.head? = some '@' ∨ word ∈ keywords)
  isNameWord word h := h.1
  isSpecifierWord word h := h.1
  disjoint word hName hSpecifier := by
    obtain ⟨⟨-, hChars⟩, hFree⟩ := hName
    rcases hSpecifier.2 with hAt | hKeyword
    · have hWord := List.all_eq_true.mp hChars '@' (List.mem_of_mem_head? hAt)
      have hMark : Unicode.isWord '@' = false := by decide +kernel
      rw [hMark] at hWord
      cases hWord
    · exact hFree hKeyword

namespace TypeRef

def parts : TypeRef → List TypeRef
  | .named _ arguments => arguments
  | .member base _ arguments => base :: arguments
  | .optional wrapped _ => [wrapped]
  | .array element => [element]
  | .dictionary key value => [key, value]
  | .tuple elements => elements.map TupleElement.type
  | .function parameters result _ _ thrown =>
    parameters.map TupleElement.type ++ result :: thrown.toList
  | .attributed _ base => [base]
  | .composition types => types
  | .metatype base _ => [base]

mutual

theorem parts_induction {motive : TypeRef → Prop}
    (step : ∀ t, (∀ p ∈ t.parts, motive p) → motive t) : (t : TypeRef) → motive t
  | .named name arguments => step (.named name arguments) (parts_induction_all step arguments)
  | .member base name arguments =>
    step (.member base name arguments) (List.forall_mem_cons.mpr
      ⟨parts_induction step base, parts_induction_all step arguments⟩)
  | .optional wrapped implicitlyUnwrapped =>
    step (.optional wrapped implicitlyUnwrapped)
      (List.forall_mem_singleton.mpr (parts_induction step wrapped))
  | .array element =>
    step (.array element) (List.forall_mem_singleton.mpr (parts_induction step element))
  | .dictionary key value =>
    step (.dictionary key value) (List.forall_mem_cons.mpr
      ⟨parts_induction step key, List.forall_mem_singleton.mpr (parts_induction step value)⟩)
  | .tuple elements =>
    step (.tuple elements) (List.forall_mem_map.mpr (parts_induction_elements step elements))
  | .function parameters result isAsync isThrowing thrown =>
    step (.function parameters result isAsync isThrowing thrown) (List.forall_mem_append.mpr
      ⟨List.forall_mem_map.mpr (parts_induction_elements step parameters),
        List.forall_mem_cons.mpr
          ⟨parts_induction step result, parts_induction_thrown step thrown⟩⟩)
  | .attributed specifiers base =>
    step (.attributed specifiers base)
      (List.forall_mem_singleton.mpr (parts_induction step base))
  | .composition types => step (.composition types) (parts_induction_all step types)
  | .metatype base kind =>
    step (.metatype base kind) (List.forall_mem_singleton.mpr (parts_induction step base))

theorem parts_induction_all {motive : TypeRef → Prop}
    (step : ∀ t, (∀ p ∈ t.parts, motive p) → motive t) :
    (ts : List TypeRef) → ∀ t ∈ ts, motive t
  | [] => List.forall_mem_nil motive
  | t :: ts => List.forall_mem_cons.mpr ⟨parts_induction step t, parts_induction_all step ts⟩

theorem parts_induction_elements {motive : TypeRef → Prop}
    (step : ∀ t, (∀ p ∈ t.parts, motive p) → motive t) :
    (es : List (TupleElement TypeRef)) → ∀ e ∈ es, motive e.type
  | [] => List.forall_mem_nil _
  | ⟨type, _, _, _⟩ :: es =>
    List.forall_mem_cons.mpr ⟨parts_induction step type, parts_induction_elements step es⟩

theorem parts_induction_thrown {motive : TypeRef → Prop}
    (step : ∀ t, (∀ p ∈ t.parts, motive p) → motive t) :
    (thrown : Option TypeRef) → ∀ t ∈ thrown.toList, motive t
  | none => List.forall_mem_nil motive
  | some t => List.forall_mem_singleton.mpr (parts_induction step t)

end

/-- The types that a member may follow without parentheses. -/
def takesMember : TypeRef → Bool
  | .named .. | .member .. | .metatype .. => true
  | _ => false

def isAttributed : TypeRef → Bool
  | .attributed .. => true
  | _ => false

end TypeRef

def TupleElement.IsBare (e : TupleElement TypeRef) : Prop :=
  e.label = none ∧ e.variadic = false

namespace Vocabulary

variable (v : Vocabulary)

structure AdmitsElement (e : TupleElement TypeRef) : Prop where
  label : ∀ label, e.label = some label → v.IsName label
  secondName : ∀ second, e.secondName = some second → v.IsName second
  labelled : e.secondName ≠ none → e.label ≠ none

def Admits : TypeRef → Prop
  | .named name _ => v.IsName name
  | .member base name _ =>
    v.IsName name ∧ name ≠ "Type" ∧ name ≠ "Protocol" ∧ base.takesMember = true
  | .optional _ _ | .array _ | .dictionary _ _ => True
  | .tuple elements => (∀ e ∈ elements, v.AdmitsElement e) ∧ ∀ e, elements = [e] → ¬ e.IsBare
  | .function parameters _ _ isThrowing thrown =>
    (∀ e ∈ parameters, v.AdmitsElement e) ∧ (thrown ≠ none → isThrowing = true)
  | .attributed specifiers base =>
    specifiers ≠ [] ∧ (∀ s ∈ specifiers, v.IsSpecifier s) ∧ base.isAttributed = false
  | .composition types => 2 ≤ types.length ∧ ∀ t ∈ types, t.needsParentheses = false
  | .metatype _ kind => kind = "Type" ∨ kind = "Protocol"

inductive Canonical : TypeRef → Prop where
  | intro {t : TypeRef} (hAdmits : v.Admits t) (hParts : ∀ p ∈ t.parts, Canonical p) : Canonical t

end Vocabulary

end SwiftDerive
