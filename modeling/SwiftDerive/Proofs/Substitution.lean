import SwiftDerive.Proofs.TypeText.Canonical
import SwiftDerive.Syntax.Substitution

/-! # Substitutions in sequence

Two substitutions one after the other do what one does, which has the second one at work in the
replacements of the first. Whatever the first puts into a type, both pass over the same positions: the
names with generic arguments, the bases of member types and the thrown types.
-/

namespace SwiftDerive

set_option autoImplicit false

namespace Substitution

def andThen (σ τ : Substitution) : Substitution := fun name =>
  match σ name with
  | some t => some (t.substitute τ)
  | none => τ name

variable {σ τ : Substitution} {name : String}

theorem andThen_of_some {t : TypeRef} (hName : σ name = some t) :
    σ.andThen τ name = some (t.substitute τ) := by
  rw [andThen, hName]

theorem andThen_of_none (hName : σ name = none) : σ.andThen τ name = τ name := by
  rw [andThen, hName]

end Substitution

namespace TypeRef

theorem substituteElements_eq_map (σ : Substitution) (es : List (TupleElement TypeRef)) :
    substituteElements σ es = es.map fun e => { e with type := e.type.substitute σ } := by
  induction es with
  | nil => rfl
  | cons e es ih => rw [substituteElements, ih, List.map_cons]

section Sequence

variable {σ τ ρ : Substitution}

theorem substituteAll_substituteAll {ts : List TypeRef}
    (hTypes : ∀ t ∈ ts, (t.substitute σ).substitute τ = t.substitute ρ) :
    substituteAll τ (substituteAll σ ts) = substituteAll ρ ts := by
  rw [substituteAll_eq_map, substituteAll_eq_map, substituteAll_eq_map, List.map_map]
  exact List.map_congr_left hTypes

theorem substituteElements_substituteElements {es : List (TupleElement TypeRef)}
    (hTypes : ∀ t ∈ es.map TupleElement.type, (t.substitute σ).substitute τ = t.substitute ρ) :
    substituteElements τ (substituteElements σ es) = substituteElements ρ es := by
  rw [substituteElements_eq_map, substituteElements_eq_map, substituteElements_eq_map, List.map_map]
  refine List.map_congr_left fun e hMem => ?_
  exact congrArg (fun t => { e with type := t }) (hTypes e.type (List.mem_map_of_mem hMem))

end Sequence

/-- A replacement is only ever put in for a bare name, and the second substitution goes through all of
it. -/
theorem substitute_substitute (σ τ : Substitution) (t : TypeRef) :
    (t.substitute σ).substitute τ = t.substitute (σ.andThen τ) := by
  induction t using parts_induction with
  | step t ih =>
    cases t with
    | named name arguments =>
      cases arguments with
      | nil =>
        rw [substitute, substitute]
        cases hName : σ name with
        | none => rw [Substitution.andThen_of_none hName, Option.getD_none, substitute]
        | some t => rw [Substitution.andThen_of_some hName, Option.getD_some, Option.getD_some]
      | cons a as =>
        -- The name keeps its arguments, so the second substitution leaves it alone too.
        have hArguments : substituteAll τ (substituteAll σ (a :: as)) =
            substituteAll (σ.andThen τ) (a :: as) := substituteAll_substituteAll ih
        rw [substitute, substitute, ← hArguments]
        rfl
    | member base name arguments =>
      have hArguments := substituteAll_substituteAll fun t hMem => ih t (List.mem_cons_of_mem base hMem)
      rw [substitute, substitute, substitute, hArguments]
    | optional wrapped _ | array wrapped | attributed _ wrapped | metatype wrapped _ =>
      rw [substitute, substitute, substitute, ih wrapped List.mem_cons_self]
    | dictionary key value =>
      rw [substitute, substitute, substitute, ih key List.mem_cons_self,
        ih value (List.mem_cons_of_mem key List.mem_cons_self)]
    | tuple elements =>
      rw [substitute, substitute, substitute, substituteElements_substituteElements ih]
    | function parameters result isAsync isThrowing thrown =>
      obtain ⟨hParameters, hOthers⟩ := List.forall_mem_append.mp ih
      rw [substitute, substitute, substitute, substituteElements_substituteElements hParameters,
        hOthers result List.mem_cons_self]
    | composition types =>
      have hTypes : substituteAll τ (substituteAll σ types) = substituteAll (σ.andThen τ) types :=
        substituteAll_substituteAll ih
      rw [substitute, substitute, substitute, hTypes]

end TypeRef

end SwiftDerive
