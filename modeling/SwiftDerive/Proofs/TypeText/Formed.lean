import SwiftDerive.Proofs.TypeText.Canonical

/-! # Types in form

What of a canonical type does not depend on the words in it: specifiers are joined and not empty, a
tuple is more than a type in parentheses, a second name has a label before it, and what throws nothing
has no thrown type.
-/

namespace SwiftDerive

set_option autoImplicit false

def TupleElement.Labelled (e : TupleElement TypeRef) : Prop :=
  e.secondName ≠ none → e.label ≠ none

namespace TypeRef

def InForm : TypeRef → Prop
  | .tuple elements => (∀ e ∈ elements, e.Labelled) ∧ ∀ e, elements = [e] → ¬ e.IsBare
  | .function parameters _ _ isThrowing thrown =>
    (∀ e ∈ parameters, e.Labelled) ∧ (thrown ≠ none → isThrowing = true)
  | .attributed specifiers base => specifiers ≠ [] ∧ base.isAttributed = false
  | _ => True

inductive Formed : TypeRef → Prop where
  | intro {t : TypeRef} (hForm : t.InForm) (hParts : ∀ p ∈ t.parts, Formed p) : Formed t

abbrev AllFormed (ts : List TypeRef) : Prop := ∀ t ∈ ts, t.Formed

theorem Formed.form {t : TypeRef} (h : t.Formed) : t.InForm := by
  cases h with
  | intro hForm _ => exact hForm

theorem Formed.part {t p : TypeRef} (h : t.Formed) (hPart : p ∈ t.parts) : p.Formed := by
  cases h with
  | intro _ hParts => exact hParts p hPart

end TypeRef

structure TupleElement.Formed (e : TupleElement TypeRef) : Prop where
  labelled : e.Labelled
  type : e.type.Formed

namespace TypeRef

/-! ## Each kind of type -/

theorem formed_named (name : String) {arguments : List TypeRef} (h : AllFormed arguments) :
    (named name arguments).Formed :=
  .intro trivial h

theorem formed_member {base : TypeRef} (hBase : base.Formed) (name : String)
    {arguments : List TypeRef} (h : AllFormed arguments) :
    (member base name arguments).Formed :=
  .intro trivial (List.forall_mem_cons.mpr ⟨hBase, h⟩)

theorem formed_optional {wrapped : TypeRef} (h : wrapped.Formed) (implicitlyUnwrapped : Bool) :
    (optional wrapped implicitlyUnwrapped).Formed :=
  .intro trivial (List.forall_mem_singleton.mpr h)

theorem formed_array {element : TypeRef} (h : element.Formed) : (array element).Formed :=
  .intro trivial (List.forall_mem_singleton.mpr h)

theorem formed_dictionary {key value : TypeRef} (hKey : key.Formed) (hValue : value.Formed) :
    (dictionary key value).Formed :=
  .intro trivial (List.forall_mem_cons.mpr ⟨hKey, List.forall_mem_singleton.mpr hValue⟩)

theorem formed_metatype {base : TypeRef} (h : base.Formed) (kind : String) :
    (metatype base kind).Formed :=
  .intro trivial (List.forall_mem_singleton.mpr h)

theorem formed_composition {types : List TypeRef} (h : AllFormed types) :
    (composition types).Formed :=
  .intro trivial h

theorem formed_tuple {elements : List (TupleElement TypeRef)} (h : ∀ e ∈ elements, e.Formed)
    (hBare : ∀ e, elements = [e] → ¬ e.IsBare) : (tuple elements).Formed := by
  constructor
  · exact ⟨fun e hMem => (h e hMem).labelled, hBare⟩
  · exact List.forall_mem_map.mpr fun e hMem => (h e hMem).type

theorem formed_function {parameters : List (TupleElement TypeRef)} {result : TypeRef}
    {thrown : Option TypeRef} {isThrowing : Bool} (hParameters : ∀ e ∈ parameters, e.Formed)
    (hResult : result.Formed) (isAsync : Bool) (hThrowing : thrown ≠ none → isThrowing = true)
    (hThrown : AllFormed thrown.toList) :
    (function parameters result isAsync isThrowing thrown).Formed := by
  constructor
  · exact ⟨fun e hMem => (hParameters e hMem).labelled, hThrowing⟩
  · refine List.forall_mem_append.mpr ⟨?_, List.forall_mem_cons.mpr ⟨hResult, hThrown⟩⟩
    exact List.forall_mem_map.mpr fun e hMem => (hParameters e hMem).type

theorem formed_attributed {specifiers : List String} (hSpecifiers : specifiers ≠ [])
    {base : TypeRef} (hBase : base.Formed) (hPlain : base.isAttributed = false) :
    (attributed specifiers base).Formed :=
  .intro ⟨hSpecifiers, hPlain⟩ (List.forall_mem_singleton.mpr hBase)

theorem Formed.attributedWith {t : TypeRef} (h : t.Formed) (specifiers : List String) :
    (t.attributedWith specifiers).Formed := by
  unfold TypeRef.attributedWith
  split
  · exact h
  · next hSpecifiers =>
    have hBase := h.part List.mem_cons_self
    -- The type was in form already, so behind its own specifiers there are no others.
    exact formed_attributed (List.append_ne_nil_of_left_ne_nil hSpecifiers _) hBase h.form.right
  · next hSpecifiers hOther =>
    apply formed_attributed hSpecifiers h
    cases t with
    | attributed inner base => exact absurd rfl (hOther inner base)
    | _ => rfl

theorem Formed.withArguments {t : TypeRef} (h : t.Formed) {arguments : List TypeRef}
    (hArguments : AllFormed arguments) : (t.withArguments arguments).Formed := by
  cases t with
  | named name _ => exact formed_named name hArguments
  | member base name _ => exact formed_member (h.part List.mem_cons_self) name hArguments
  | _ => exact h

end TypeRef

end SwiftDerive
