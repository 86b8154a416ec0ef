import SwiftDerive.Proofs.Entries
import SwiftDerive.Proofs.Substitution
import SwiftDerive.Proofs.TypeNames

/-! # Mentioned names and substitution

Mentioning and replacing go through a type by different ways: a name is mentioned also where it has
generic arguments or is the base of a member type, and there nothing is replaced. Still a type that
mentions no replaced name stays as it is, and whatever a replaced type mentions was mentioned before or
comes from the type that stands for a mentioned name.
-/

namespace SwiftDerive.TypeRef

set_option autoImplicit false

theorem mentionsAny_eq_any (names : List String) (ts : List TypeRef) :
    mentionsAny names ts = ts.any (mentions names) := by
  induction ts with
  | nil => rfl
  | cons t ts ih => rw [mentionsAny, ih, List.any_cons]

theorem mentionsElements_eq_any (names : List String) (es : List (TupleElement TypeRef)) :
    mentionsElements names es = es.any fun e => e.type.mentions names := by
  induction es with
  | nil => rfl
  | cons e es ih => rw [mentionsElements, ih, List.any_cons]

def ownName? : TypeRef → Option String
  | .named name _ => some name
  | _ => none

/-- The parts in which a name is looked for: all but the thrown type of a function. -/
def searchedParts : TypeRef → List TypeRef
  | .function parameters result _ _ _ => result :: parameters.map TupleElement.type
  | t => t.parts

theorem searchedParts_subset (t : TypeRef) : t.searchedParts ⊆ t.parts := by
  cases t with
  | function parameters result isAsync isThrowing thrown =>
    intro p hMem
    simp only [searchedParts, parts, List.mem_cons, List.mem_append] at hMem ⊢
    exact hMem.elim (fun h => .inr (.inl h)) .inl
  | _ => exact List.Subset.refl _

theorem mentions_iff (names : List String) (t : TypeRef) :
    t.mentions names = true ↔
      (∃ name ∈ names, t.ownName? = some name) ∨ ∃ p ∈ t.searchedParts, p.mentions names = true := by
  cases t <;>
    simp [mentions, mentionsAny_eq_any, mentionsElements_eq_any, ownName?, searchedParts, parts]

/-- A part of a type in which something was replaced is a part of the type, replaced or kept. -/
theorem searchedParts_substitute {σ : Substitution} {t p : TypeRef}
    (hNotBare : ∀ name, t ≠ .named name [])
    (hMem : p ∈ (t.substitute σ).searchedParts) :
    ∃ q ∈ t.searchedParts, p = q ∨ p = q.substitute σ := by
  cases t with
  | named name arguments =>
    cases arguments with
    | nil => exact absurd rfl (hNotBare name)
    | cons a as =>
      rw [substitute, substituteAll_eq_map] at hMem
      obtain ⟨q, hQ, rfl⟩ := List.mem_map.mp hMem
      exact ⟨q, hQ, .inr rfl⟩
  | member base name arguments =>
    rw [substitute, substituteAll_eq_map] at hMem
    rcases List.mem_cons.mp hMem with rfl | hArguments
    · exact ⟨p, List.mem_cons_self, .inl rfl⟩
    · obtain ⟨q, hQ, rfl⟩ := List.mem_map.mp hArguments
      exact ⟨q, List.mem_cons_of_mem base hQ, .inr rfl⟩
  | optional wrapped _ | array wrapped | attributed _ wrapped | metatype wrapped _ =>
    rw [substitute] at hMem
    exact ⟨wrapped, List.mem_cons_self, .inr (List.mem_singleton.mp hMem)⟩
  | dictionary key value =>
    rw [substitute] at hMem
    rcases List.mem_pair.mp hMem with rfl | rfl
    · exact ⟨key, List.mem_cons_self, .inr rfl⟩
    · exact ⟨value, List.mem_cons_of_mem key List.mem_cons_self, .inr rfl⟩
  | tuple elements =>
    rw [substitute, substituteElements_eq_map] at hMem
    obtain ⟨_, hReplaced, rfl⟩ := List.mem_map.mp hMem
    obtain ⟨e, hE, rfl⟩ := List.mem_map.mp hReplaced
    exact ⟨e.type, List.mem_map_of_mem hE, .inr rfl⟩
  | function parameters result isAsync isThrowing thrown =>
    rw [substitute, substituteElements_eq_map, searchedParts, List.map_map] at hMem
    rcases List.mem_cons.mp hMem with rfl | hParameters
    · exact ⟨result, List.mem_cons_self, .inr rfl⟩
    · obtain ⟨e, hE, rfl⟩ := List.mem_map.mp hParameters
      exact ⟨e.type, List.mem_cons_of_mem result (List.mem_map_of_mem hE), .inr rfl⟩
  | composition types =>
    rw [substitute, substituteAll_eq_map] at hMem
    obtain ⟨q, hQ, rfl⟩ := List.mem_map.mp hMem
    exact ⟨q, hQ, .inr rfl⟩

theorem ownName?_substitute {σ : Substitution} {t : TypeRef} (hNotBare : ∀ name, t ≠ .named name []) :
    (t.substitute σ).ownName? = t.ownName? := by
  cases t with
  | named name arguments =>
    cases arguments with
    | nil => exact absurd rfl (hNotBare name)
    | cons a as => rw [substitute]; rfl
  | _ => rw [substitute]; rfl

/-- What is mentioned after a substitution was mentioned before, or by the type that stands for a name
that was mentioned. -/
theorem mentions_of_mentions_substitute (σ : Substitution) (name : String) (t : TypeRef)
    (hMentions : (t.substitute σ).mentions [name] = true) :
    t.mentions [name] = true ∨ ∃ replaced u, t.mentions [replaced] = true ∧ σ replaced = some u ∧
      u.mentions [name] = true := by
  induction t using parts_induction with
  | step t ih =>
    by_cases hBare : ∃ own, t = .named own []
    · obtain ⟨own, rfl⟩ := hBare
      rw [substitute] at hMentions
      cases hOwn : σ own with
      | none =>
        rw [hOwn, Option.getD_none] at hMentions
        exact .inl hMentions
      | some u =>
        rw [hOwn, Option.getD_some] at hMentions
        exact .inr ⟨own, u, by simp [mentions], hOwn, hMentions⟩
    · have hNotBare : ∀ own, t ≠ .named own [] := not_exists.mp hBare
      rw [mentions_iff, ownName?_substitute hNotBare] at hMentions
      rcases hMentions with hOwn | ⟨p, hMem, hPart⟩
      · exact .inl ((mentions_iff _ _).mpr (.inl hOwn))
      · obtain ⟨q, hQ, hSame⟩ := searchedParts_substitute hNotBare hMem
        have hWhole : ∀ names, q.mentions names = true → t.mentions names = true := fun names h =>
          (mentions_iff names t).mpr (.inr ⟨q, hQ, h⟩)
        rcases hSame with rfl | rfl
        · exact .inl (hWhole _ hPart)
        · rcases ih q (searchedParts_subset t hQ) hPart with hKept | ⟨replaced, u, hName, hReplaced⟩
          · exact .inl (hWhole _ hKept)
          · exact .inr ⟨replaced, u, hWhole _ hName, hReplaced⟩

/-- Whether names are mentioned tells safely whether a substitution for them matters: it keeps a type
that mentions none of them, and it brings in only what the replacements mention. -/
theorem mentions_guards_substitute (entries : List (String × TypeRef)) (t : TypeRef) :
    (t.mentions (keysOf entries) = false → t.substitute (.ofList entries) = t) ∧
      ∀ name, (t.substitute (.ofList entries)).mentions [name] = true →
        t.mentions [name] = true ∨ ∃ entry ∈ entries, entry.2.mentions [name] = true := by
  constructor
  · refine substitute_eq_self (fun name hOutside => ?_) t
    exact (lookup_eq_none_iff_keysOf name entries).mpr hOutside
  · intro name hMentions
    refine (mentions_of_mentions_substitute (.ofList entries) name t hMentions).imp_right ?_
    rintro ⟨replaced, u, _, hReplaced, hName⟩
    exact ⟨(replaced, u), mem_of_lookup hReplaced, hName⟩

theorem mentions_guards_substitute_member :
    let entries : List (String × TypeRef) := [("T", .array (.named "User" []))]
    let kept : TypeRef := .member (.named "Store" []) "Key" [.named "Int" []]
    let t : TypeRef := .member (.named "T" []) "Key" [.optional (.named "T" []) false]
    kept.mentions (keysOf entries) = false ∧ kept.substitute (.ofList entries) = kept ∧
      (t.substitute (.ofList entries)).mentions ["User"] = true ∧
      (t.mentions ["User"] = true ∨ ∃ entry ∈ entries, entry.2.mentions ["User"] = true) := by
  intro entries kept t
  have hKept : kept.mentions (keysOf entries) = false := by decide
  have hUser : (t.substitute (.ofList entries)).mentions ["User"] = true := by decide
  exact ⟨hKept, (mentions_guards_substitute entries kept).left hKept, hUser,
    (mentions_guards_substitute entries t).right "User" hUser⟩

end SwiftDerive.TypeRef
