import SwiftDerive.Proofs.Reading.Origins

/-! # The first offending node

The search for what is wrong with a tree goes down into the first flagged child of each node and never
back. Where the flags are right, it ends at the first erroneous or missing node of the tree, a node
coming before those below it.
-/

namespace SwiftDerive.Grammar.Node

set_option autoImplicit false

def isOffending (n : Node) : Bool := n.isError || n.missing

/-- Every node is flagged exactly if it or a node below it is offending. -/
def FlagsAgree (root : Node) : Prop :=
  ∀ n ∈ root.preorder, n.hasError = n.preorder.any isOffending

instance (root : Node) : Decidable root.FlagsAgree :=
  inferInstanceAs (Decidable (∀ n ∈ root.preorder, n.hasError = n.preorder.any isOffending))

theorem preorder_subset {root c : Node} (hChild : c ∈ root.children) : c.preorder ⊆ root.preorder := by
  intro n hMem
  rw [preorder_eq root, preorderAmong_eq_flatMap]
  exact List.mem_cons_of_mem root (List.mem_flatMap.mpr ⟨c, hChild, hMem⟩)

theorem FlagsAgree.child {root c : Node} (hFlags : root.FlagsAgree) (hChild : c ∈ root.children) :
    c.FlagsAgree :=
  fun n hMem => hFlags n (preorder_subset hChild hMem)

theorem FlagsAgree.entered {n : Node} (hFlags : n.FlagsAgree) :
    (n.hasError || n.missing) = n.preorder.any isOffending := by
  rw [hFlags n n.self_mem_preorder]
  cases hMissing : n.missing with
  | false => exact Bool.or_false _
  | true =>
    have hOffending : n.isOffending = true := by rw [isOffending, hMissing, Bool.or_true]
    rw [Bool.or_true, eq_comm, List.any_eq_true]
    exact ⟨n, n.self_mem_preorder, hOffending⟩

theorem firstErrorAmong_eq_find? {ns : List Node} (hFlags : ∀ n ∈ ns, n.FlagsAgree)
    (hInner : ∀ n ∈ ns, n.preorder.any isOffending = true →
      n.preorder.find? isOffending = some n.firstError) :
    firstErrorAmong ns = (preorderAmong ns).find? isOffending := by
  induction ns with
  | nil => rfl
  | cons n ns ih =>
    obtain ⟨hHead, hTail⟩ := List.forall_mem_cons.mp hFlags
    obtain ⟨hFirst, hRest⟩ := List.forall_mem_cons.mp hInner
    rw [firstErrorAmong, preorderAmong, List.find?_append, hHead.entered, ih hTail hRest]
    cases hOffending : n.preorder.any isOffending with
    | true => rw [if_pos rfl, hFirst hOffending, Option.some_or]
    | false =>
      have hNone : n.preorder.find? isOffending = none := by
        rw [List.find?_eq_none]
        intro m hMem
        simpa using List.any_eq_false.mp hOffending m hMem
      rw [if_neg Bool.false_ne_true, hNone, Option.none_or]

theorem find?_preorder {n : Node} (hFlags : n.FlagsAgree)
    (hOffending : n.preorder.any isOffending = true) :
    n.preorder.find? isOffending = some n.firstError := by
  induction n using children_induction with
  | step n ih =>
    rw [firstError_eq, ← isOffending, preorder_eq, List.find?_cons]
    cases hHere : n.isOffending with
    | true => rfl
    | false =>
      have hAmong : firstErrorAmong n.children = (preorderAmong n.children).find? isOffending :=
        firstErrorAmong_eq_find? (fun c hChild => hFlags.child hChild)
          fun c hChild => ih c hChild (hFlags.child hChild)
      rw [preorder_eq, List.any_cons, hHere, Bool.false_or] at hOffending
      obtain ⟨m, hFound⟩ := Option.isSome_iff_exists.mp (List.find?_isSome.mpr
        (List.any_eq_true.mp hOffending))
      rw [if_neg Bool.false_ne_true, hAmong, hFound, Option.getD_some]

/-- The search stops at an offending node, and in the order of the text no node before it is
offending. -/
theorem firstError_first {root : Node} (hFlags : root.FlagsAgree) (hError : root.hasError = true) :
    ∃ before behind, root.preorder = before ++ root.firstError :: behind ∧
      root.firstError.isOffending = true ∧ ∀ n ∈ before, n.isOffending = false := by
  have hOffending : root.preorder.any isOffending = true := by
    rw [← hFlags root root.self_mem_preorder, hError]
  have hFound := find?_preorder hFlags hOffending
  obtain ⟨hFirst, before, behind, hSplit, hBefore⟩ := List.find?_eq_some_iff_append.mp hFound
  refine ⟨before, behind, hSplit, hFirst, ?_⟩
  intro n hMem
  simpa using hBefore n hMem

def unclosedClause : Node :=
  ⟨"source_file", true, false, false, true, 0, 18,
    [⟨"comment", true, false, false, false, 0, 4, []⟩,
     ⟨"function_declaration", true, false, false, true, 5, 18,
      [⟨"func", false, false, false, false, 5, 9, []⟩,
       ⟨"simple_identifier", true, false, false, false, 10, 13, []⟩,
       ⟨"(", false, false, false, false, 13, 14, []⟩,
       ⟨")", false, true, false, true, 14, 14, []⟩,
       ⟨"ERROR", true, false, true, true, 15, 18,
        [⟨"ERROR", true, false, true, true, 16, 17, []⟩]⟩]⟩]⟩

theorem firstError_first_unclosed :
    unclosedClause.FlagsAgree ∧ unclosedClause.hasError = true ∧
      unclosedClause.firstError = ⟨")", false, true, false, true, 14, 14, []⟩ ∧
      ∃ before behind, unclosedClause.preorder = before ++ unclosedClause.firstError :: behind ∧
        unclosedClause.firstError.isOffending = true ∧ ∀ n ∈ before, n.isOffending = false :=
  ⟨by decide, rfl, rfl, firstError_first (by decide) rfl⟩

end SwiftDerive.Grammar.Node
