import SwiftDerive.Proofs.Reading.Comments

/-! # Placeholder functions

A text is read as a type behind the name of the only parameter of a placeholder function. A text that
goes on behind a type can give the function a default value, effects, a result, generic parameters or
a `where` clause, each by nodes of kinds of its own; the type is read all the same.
-/

namespace SwiftDerive

set_option autoImplicit false

/-- The function has one parameter of the type and nothing else, apart from its name and its body. -/
structure FunctionDecl.OnlyHolds (f : FunctionDecl) (t : TypeRef) : Prop where
  parameter : ∃ p, f.parameters = [p] ∧ p.type = t ∧ p.variadic = false ∧ p.defaultValue = none
  effects : f.effects = Effects.empty
  result : f.result = none
  genericParameters : f.genericParameters = []
  whereClause : f.whereClause = none

end SwiftDerive

namespace SwiftDerive.Reading

set_option autoImplicit false

open Grammar

def effectKinds : List String := ["async", "throws", "rethrows"]

def clauseKinds : List String := ["attribute", "parameter"]

def hasDefault (n : Node) : Bool :=
  ((clauseParts 0 n.children).dropWhile (·.kind != "parameter")).any
    fun part => !part.isOf clauseKinds

def hasGenericParameter (n : Node) : Bool :=
  (n.children.find? (·.kind == "type_parameters")).any
    fun list => list.parts.any (·.kind == "type_parameter")

def adorned (n : Node) : Bool :=
  hasDefault n || n.children.any (·.isOf effectKinds) || n.children.any (·.isOf typeKinds) ||
    hasGenericParameter n || n.children.any (·.kind == "type_constraints")

section

variable {src : Source}

/-! ## Effects, results, generic parameters and `where` clauses -/

theorem isOf_effectKinds (n : Node) :
    n.isOf effectKinds = (n.kind == "async" || n.isOf ["throws", "rethrows"]) :=
  List.contains_cons

theorem effects_eq_empty_iff {n : Node} {effects : Effects} (hRead : effectsOf src n = .ok effects) :
    effects = Effects.empty ↔ n.children.any (·.isOf effectKinds) = false := by
  -- The run carries both facts, since the two flags alone do not determine the effects.
  have hRun : (n.children.any (·.isOf effectKinds) = false → effects = Effects.empty) ∧
      (effects.isAsync || effects.isThrowing) =
        (Effects.empty.isAsync || Effects.empty.isThrowing ||
          n.children.any (·.isOf effectKinds)) := by
    rw [effectsOf, effectsAmong, foldlM_readNodes] at hRead
    refine foldlM_ok_induction
      (motive := fun ns before after => (ns.any (·.isOf effectKinds) = false → after = before) ∧
        (after.isAsync || after.isThrowing) =
          (before.isAsync || before.isThrowing || ns.any (·.isOf effectKinds))) ?nil ?cons hRead
    case nil => exact fun before => ⟨fun _ => rfl, (Bool.or_false _).symm⟩
    case cons =>
      rintro c ns before next last hStep ⟨hNone, hSome⟩
      have hNext : (c.isOf effectKinds = false → next = before) ∧
          (next.isAsync || next.isThrowing) =
            (before.isAsync || before.isThrowing || c.isOf effectKinds) := by
        rw [isOf_effectKinds]
        by_cases hAsync : (c.kind == "async") = true
        · rw [if_pos hAsync] at hStep
          cases hStep
          rw [hAsync, Bool.true_or, Bool.or_true]
          exact ⟨Bool.noConfusion, rfl⟩
        · rw [if_neg hAsync] at hStep
          rw [Bool.not_eq_true] at hAsync
          rw [hAsync, Bool.false_or]
          by_cases hThrows : c.isOf ["throws", "rethrows"] = true
          · rw [if_pos hThrows] at hStep
            rw [hThrows, Bool.or_true]
            split at hStep
            · cases hStep
              exact ⟨Bool.noConfusion, Bool.or_true _⟩
            · cases hStep
          · rw [if_neg hThrows] at hStep
            cases hStep
            rw [Bool.not_eq_true] at hThrows
            rw [hThrows, Bool.or_false]
            exact ⟨fun _ => rfl, rfl⟩
      rw [List.any_cons, Bool.or_eq_false_iff, hSome, hNext.right, Bool.or_assoc]
      exact ⟨fun hAll => (hNone hAll.right).trans (hNext.left hAll.left), rfl⟩
  constructor
  · rintro rfl
    exact hRun.right.symm
  · exact hRun.left

theorem length_modifyLast {α : Type} (f : α → α) (xs : List α) :
    (modifyLast f xs).length = xs.length := by
  induction xs using modifyLast.induct with
  | case1 => rfl
  | case2 x => rfl
  | case3 x y rest ih =>
    rw [modifyLast, List.length_cons, ih]
    rfl

theorem getElem?_modifyLast {α : Type} (f : α → α) (xs : List α) (i : Nat) :
    (modifyLast f xs)[i]? = if i + 1 = xs.length then xs[i]?.map f else xs[i]? := by
  induction xs using modifyLast.induct generalizing i with
  | case1 => simp [modifyLast]
  | case2 x => cases i <;> simp [modifyLast]
  | case3 x y rest ih =>
    cases i with
    | zero => simp [modifyLast]
    | succ i => simp [modifyLast, ih]

theorem length_typeStep {run next : TypeRun} {n : Node}
    (hStep : TypeRun.step src run ⟨n, readNode src n⟩ = .ok next) :
    next.types.length = run.types.length + if n.isOf typeKinds = true then 1 else 0 := by
  rw [TypeRun.step] at hStep
  by_cases hSpecifier : n.isOf specifierKinds = true
  · rw [if_pos hSpecifier] at hStep
    cases hStep
    rw [Node.isOf_eq_false hSpecifier (by decide)]
    rfl
  · rw [if_neg hSpecifier] at hStep
    by_cases hType : n.isOf typeKinds = true
    · rw [if_pos hType] at hStep ⊢
      split at hStep
      · cases hStep
        exact List.length_append
      · cases hStep
    · rw [if_neg hType] at hStep ⊢
      split at hStep
      · cases hStep
        exact length_modifyLast _ _
      · split at hStep
        · cases hStep
          rfl
        · cases hStep
          rfl

theorem length_typesIn {ns : List Node} {types : List TypeRef} (hRead : typesIn src ns = .ok types) :
    types.length = ns.countP (·.isOf typeKinds) := by
  rw [typesIn, typesAmong, foldlM_readNodes, map_eq_ok_iff] at hRead
  obtain ⟨run, hRead, rfl⟩ := hRead
  have hRun : run.types.length = 0 + ns.countP (·.isOf typeKinds) := by
    refine foldlM_ok_induction
      (motive := fun ns before after =>
        after.types.length = before.types.length + ns.countP (·.isOf typeKinds)) ?nil ?cons hRead
    case nil => exact fun before => rfl
    case cons =>
      intro c ns before next last hStep hRest
      rw [List.countP_cons, hRest, length_typeStep hStep]
      omega
  rw [hRun, Nat.zero_add]

theorem getLast?_eq_none_iff_of_typesIn {ns : List Node} {types : List TypeRef}
    (hRead : typesIn src ns = .ok types) :
    types.getLast? = none ↔ ns.any (·.isOf typeKinds) = false := by
  rw [List.getLast?_eq_none_iff, ← List.length_eq_zero_iff, length_typesIn hRead,
    List.countP_eq_zero, List.any_eq_false]

theorem genericParameters_eq_nil_iff {n : Node} {parameters : List GenericParameter}
    (hRead : genericParametersOf src n = .ok parameters) :
    parameters = [] ↔ hasGenericParameter n = false := by
  rw [genericParametersOf] at hRead
  rw [hasGenericParameter]
  cases hList : n.children.find? (·.kind == "type_parameters") with
  | none =>
    rw [hList] at hRead
    cases hRead
    exact iff_of_true rfl rfl
  | some list =>
    rw [hList] at hRead
    have hLength := length_eq_of_mapM_eq_ok hRead
    rw [← List.length_eq_zero_iff, hLength, List.length_eq_zero_iff, List.filter_eq_nil_iff,
      Option.any_some, List.any_eq_false]

theorem whereClause_eq_none_iff {n : Node} {clause : Option WhereClause}
    (hRead : whereClauseOf src n = .ok clause) :
    clause = none ↔ n.children.any (·.kind == "type_constraints") = false := by
  rw [whereClauseOf] at hRead
  rw [List.any_eq_false]
  cases hFound : n.children.find? (·.kind == "type_constraints") with
  | none =>
    rw [hFound] at hRead
    cases hRead
    exact iff_of_true rfl (List.find?_eq_none.mp hFound)
  | some list =>
    rw [hFound] at hRead
    obtain ⟨w, -, rfl⟩ := (map_eq_ok_iff _ _ _).mp hRead
    refine iff_of_false (Option.some_ne_none w) fun hNone => ?_
    exact hNone list (List.mem_of_find?_eq_some hFound)
      (beq_iff_eq.mpr (found_kind hFound).left)

/-! ## Default values -/

theorem defaultValue_parameterOf {n : Node} {attributes : List Attribute} {p : Parameter}
    (hRead : parameterOf src n attributes = .ok p) : p.defaultValue = none := by
  simp only [parameterOf, bind_eq_ok_iff] at hRead
  obtain ⟨types, -, hRead⟩ := hRead
  split at hRead
  · cases hRead
    rfl
  · cases hRead

theorem parameterStep_cases {run next : ParameterRun} {part : Node}
    (hStep : ParameterRun.step src run part = .ok next) :
    (part.kind = "attribute" ∧ next.parameters = run.parameters) ∨
    (part.kind = "parameter" ∧ ∃ p, p.defaultValue = none ∧
      next.parameters = run.parameters ++ [p]) ∨
    (part.isOf clauseKinds = false ∧
      next.parameters = modifyLast (fun p => { p with defaultValue := some (src.raw part) })
        run.parameters) := by
  rw [ParameterRun.step] at hStep
  by_cases hAttribute : (part.kind == "attribute") = true
  · rw [if_pos hAttribute] at hStep
    cases hStep
    exact .inl ⟨beq_iff_eq.mp hAttribute, rfl⟩
  · rw [if_neg hAttribute] at hStep
    by_cases hParameter : (part.kind == "parameter") = true
    · rw [if_pos hParameter] at hStep
      split at hStep
      · next p hRead =>
        cases hStep
        exact .inr (.inl ⟨beq_iff_eq.mp hParameter, p, defaultValue_parameterOf hRead, rfl⟩)
      · cases hStep
    · rw [if_neg hParameter] at hStep
      cases hStep
      refine .inr (.inr ⟨?_, rfl⟩)
      rw [beq_iff_eq] at hAttribute hParameter
      simp [Node.isOf, clauseKinds, hAttribute, hParameter]

theorem length_le_parameterRun {parts : List Node} {run last : ParameterRun}
    (hRun : parts.foldlM (ParameterRun.step src) run = .ok last) :
    run.parameters.length ≤ last.parameters.length := by
  refine foldlM_ok_induction
    (motive := fun _ run last => run.parameters.length ≤ last.parameters.length) ?nil ?cons hRun
  case nil => exact fun run => Nat.le_refl _
  case cons =>
    intro part parts run next last hStep hRest
    refine Nat.le_trans ?_ hRest
    rcases parameterStep_cases hStep with ⟨-, hSame⟩ | ⟨-, p, -, hMore⟩ | ⟨-, hChanged⟩
    · rw [hSame]
    · rw [hMore, List.length_append]
      omega
    · rw [hChanged, length_modifyLast]

/-- Behind the only parameter, each part that is neither an attribute nor a parameter gives it a
default value. -/
theorem defaultValue_behind {parts : List Node} {run last : ParameterRun} {p q : Parameter}
    (hRun : parts.foldlM (ParameterRun.step src) run = .ok last)
    (hFirst : run.parameters = [p]) (hOnly : last.parameters = [q]) :
    q.defaultValue = none ↔
      p.defaultValue = none ∧ parts.any (!·.isOf clauseKinds) = false := by
  induction parts generalizing run p with
  | nil =>
    cases hRun
    obtain rfl : p = q := by simpa [hFirst] using hOnly
    exact (and_iff_left rfl).symm
  | cons part parts ih =>
    rw [List.foldlM_cons, bind_eq_ok_iff] at hRun
    obtain ⟨next, hStep, hRest⟩ := hRun
    rw [List.any_cons, Bool.or_eq_false_iff]
    rcases parameterStep_cases hStep with ⟨hKind, hSame⟩ | ⟨-, more, -, hMore⟩ |
      ⟨hKind, hChanged⟩
    · have hKept : part.isOf clauseKinds = true := Node.isOf_of_kind hKind (by decide)
      rw [ih hRest (hSame.trans hFirst), hKept]
      exact and_congr_right fun _ => (and_iff_right rfl).symm
    · have hLength := length_le_parameterRun hRest
      rw [hMore, hFirst, hOnly] at hLength
      simp only [List.length_append, List.length_cons, List.length_nil] at hLength
      omega
    · rw [hFirst] at hChanged
      rw [ih hRest hChanged, hKind]
      exact iff_of_false (fun hSome => nomatch hSome.left) fun hSome => nomatch hSome.right.left

theorem defaultValue_eq_none_iff {parts : List Node} {run last : ParameterRun} {p : Parameter}
    (hRun : parts.foldlM (ParameterRun.step src) run = .ok last) (hStart : run.parameters = [])
    (hOnly : last.parameters = [p]) :
    p.defaultValue = none ↔
      (parts.dropWhile (·.kind != "parameter")).any (!·.isOf clauseKinds) = false := by
  induction parts generalizing run with
  | nil =>
    cases hRun
    rw [hStart] at hOnly
    cases hOnly
  | cons part parts ih =>
    rw [List.foldlM_cons, bind_eq_ok_iff] at hRun
    obtain ⟨next, hStep, hRest⟩ := hRun
    rcases parameterStep_cases hStep with ⟨hKind, hSame⟩ | ⟨hKind, q, hDefault, hMore⟩ |
      ⟨hKind, hChanged⟩
    · rw [List.dropWhile_cons_of_pos (by rw [hKind]; rfl)]
      exact ih hRest (hSame.trans hStart)
    · have hKept : part.isOf clauseKinds = true := Node.isOf_of_kind hKind (by decide)
      rw [List.dropWhile_cons_of_neg (by rw [hKind]; decide), List.any_cons, hKept,
        defaultValue_behind hRest (hMore.trans (by rw [hStart]; rfl)) hOnly, hDefault]
      exact and_iff_right rfl
    -- There is no parameter yet that the value could be the default of, so it is lost.
    · have hOther : (part.kind != "parameter") = true := by
        rw [bne_iff_ne]
        intro hParameter
        rw [Node.isOf_of_kind hParameter (by decide)] at hKind
        cases hKind
      rw [hStart] at hChanged
      rw [List.dropWhile_cons, if_pos hOther]
      exact ih hRest hChanged

/-! ## The function as a whole -/

theorem functionOf?_parts {n : Node} {f : FunctionDecl} (hRead : functionOf? src n = .ok f) :
    parametersOf src n = .ok f.parameters ∧ effectsOf src n = .ok f.effects ∧
      genericParametersOf src n = .ok f.genericParameters ∧
      whereClauseOf src n = .ok f.whereClause ∧
      ∃ results, typesIn src n.children = .ok results ∧ f.result = results.getLast? := by
  simp only [functionOf?, bind_eq_ok_iff] at hRead
  obtain ⟨results, hResults, hRead⟩ := hRead
  split at hRead
  · cases hRead
  · simp only [bind_eq_ok_iff] at hRead
    obtain ⟨parameters, hParameters, effects, hEffects, generics, hGenerics, clause, hClause,
      hFunction⟩ := hRead
    cases hFunction
    exact ⟨hParameters, hEffects, hGenerics, hClause, results, hResults, rfl⟩

theorem holderType?_eq_some_iff {parameters : List Parameter} {t : TypeRef} :
    holderType? parameters = some t ↔
      ∃ p, parameters = [p] ∧ p.variadic = false ∧ p.type = t := by
  unfold holderType?
  split
  · next p =>
    cases hVariadic : p.variadic <;> simp [hVariadic]
  · next hOther =>
    constructor
    · exact nofun
    · rintro ⟨p, rfl, -, -⟩
      exact absurd rfl (hOther p)

theorem onlyHolds_iff {n : Node} {f : FunctionDecl} {t : TypeRef}
    (hRead : functionOf? src n = .ok f) (hType : holderType? f.parameters = some t) :
    f.OnlyHolds t ↔ adorned n = false := by
  obtain ⟨hParameters, hEffects, hGenerics, hClause, results, hResults, hResult⟩ :=
    functionOf?_parts hRead
  obtain ⟨p, hOnly, hVariadic, hHeld⟩ := holderType?_eq_some_iff.mp hType
  have hDefault : p.defaultValue = none ↔ hasDefault n = false := by
    rw [parametersOf, map_eq_ok_iff] at hParameters
    obtain ⟨run, hRun, hLast⟩ := hParameters
    exact defaultValue_eq_none_iff hRun rfl (hLast.trans hOnly)
  have hEffectsNone := effects_eq_empty_iff hEffects
  have hResultNone := getLast?_eq_none_iff_of_typesIn hResults
  have hGenericsNone := genericParameters_eq_nil_iff hGenerics
  have hClauseNone := whereClause_eq_none_iff hClause
  rw [← hResult] at hResultNone
  simp only [adorned, Bool.or_eq_false_iff, ← hDefault, ← hEffectsNone, ← hResultNone,
    ← hGenericsNone, ← hClauseNone]
  constructor
  · intro hHolds
    obtain ⟨q, hSame, -, -, hNone⟩ := hHolds.parameter
    rw [hOnly] at hSame
    cases hSame
    exact ⟨⟨⟨⟨hNone, hHolds.effects⟩, hHolds.result⟩, hHolds.genericParameters⟩,
      hHolds.whereClause⟩
  · rintro ⟨⟨⟨⟨hNone, hEffects⟩, hResult⟩, hGenerics⟩, hClause⟩
    exact ⟨⟨p, hOnly, hHeld, hVariadic, hNone⟩, hEffects, hResult, hGenerics, hClause⟩

end

/-- Of an error-free tree a type is read exactly if its only part is a function with one parameter
that is not variadic, whose type it is. The function has nothing else exactly if its node is not
adorned. -/
theorem parseType_eq_ok_iff {text : String} {tree : Node} (hTree : tree.hasError = false)
    (t : TypeRef) :
    (parseType text tree = .ok t ↔
      ∃ n f, tree.parts = [n] ∧ n.kind = "function_declaration" ∧
        functionOf? (typeSource text) n = .ok f ∧ holderType? f.parameters = some t) ∧
    ∀ n f, functionOf? (typeSource text) n = .ok f → holderType? f.parameters = some t →
      (f.OnlyHolds t ↔ adorned n = false) := by
  have hChecked : checked (typeSource text) tree = .ok tree := by
    rw [checked, hTree, if_neg Bool.false_ne_true]
  rw [parseType, hChecked]
  dsimp only
  refine ⟨⟨?read, ?accepted⟩, fun n f hFunction hType => onlyHolds_iff hFunction hType⟩
  case read =>
    intro hRead
    split at hRead
    · next n hParts =>
      split at hRead
      · next hKind =>
        split at hRead
        · cases hRead
        · next f hFunction =>
          split at hRead
          · next u hType =>
            cases hRead
            exact ⟨n, f, hParts, beq_iff_eq.mp hKind, hFunction, hType⟩
          · cases hRead
      · cases hRead
    · cases hRead
  case accepted =>
    rintro ⟨n, f, hParts, hKind, hFunction, hType⟩
    rw [hParts]
    dsimp only
    rw [hKind, beq_self_eq_true, if_pos rfl, hFunction]
    dsimp only
    rw [hType]

def intParameter : Node :=
  ⟨"parameter", true, false, false, false, 12, 24,
    [token "simple_identifier" true 12 13, token "simple_identifier" true 14 19,
     token ":" false 19 20,
     ⟨"user_type", true, false, false, false, 21, 24, [token "type_identifier" true 21 24]⟩]⟩

def defaultedInt : Node :=
  functionTree 32
    [token "func" false 0 4, token "simple_identifier" true 5 11, token "(" false 11 12,
     intParameter, token "=" false 25 26, token "integer_literal" true 27 28, token ")" false 28 29,
     token "function_body" true 30 32]

/-- The placeholder function around `Int) -> (String`. -/
def resultedInt : Node :=
  functionTree 40
    [token "func" false 0 4, token "simple_identifier" true 5 11, token "(" false 11 12,
     intParameter, token ")" false 24 25, token "->" false 26 28,
     ⟨"tuple_type", true, false, false, false, 29, 37,
       [token "(" false 29 30,
        ⟨"tuple_type_item", true, false, false, false, 30, 36,
          [⟨"user_type", true, false, false, false, 30, 36,
            [token "type_identifier" true 30 36]⟩]⟩,
        token ")" false 36 37]⟩,
     token "function_body" true 38 40]

theorem parseType_eq_ok_iff_defaulted :
    defaultedInt.hasError = false ∧
      ∃ n f, defaultedInt.parts = [n] ∧ n.kind = "function_declaration" ∧
        functionOf? (typeSource "Int = 5") n = .ok f ∧
        holderType? f.parameters = some (.named "Int" []) ∧
        adorned n = true ∧ ¬ f.OnlyHolds (.named "Int" []) := by
  obtain ⟨hRead, hOnly⟩ := @parseType_eq_ok_iff "Int = 5" defaultedInt rfl (.named "Int" [])
  obtain ⟨n, f, hParts, hKind, hFunction, hType⟩ := hRead.mp rfl
  have hAdorned : adorned n = true := by
    cases hParts
    rfl
  refine ⟨rfl, n, f, hParts, hKind, hFunction, hType, hAdorned, ?_⟩
  rw [hOnly n f hFunction hType, hAdorned]
  exact Bool.noConfusion

theorem parseType_accepts_more :
    (defaultedInt.hasError = false ∧
      parseType "Int = 5" defaultedInt = .ok (.named "Int" []) ∧
      ∀ n ∈ defaultedInt.parts, ∀ f, functionOf? (typeSource "Int = 5") n = .ok f →
        ¬ f.OnlyHolds (.named "Int" [])) ∧
    (resultedInt.hasError = false ∧
      parseType "Int) -> (String" resultedInt = .ok (.named "Int" []) ∧
      ∀ n ∈ resultedInt.parts, ∀ f, functionOf? (typeSource "Int) -> (String") n = .ok f →
        ¬ f.OnlyHolds (.named "Int" [])) := by
  refine ⟨⟨rfl, rfl, ?defaulted⟩, ⟨rfl, rfl, ?resulted⟩⟩
  case defaulted =>
    intro n hMem f hRead hHolds
    obtain rfl := List.mem_singleton.mp hMem
    cases hRead
    obtain ⟨p, hParameters, -, -, hNone⟩ := hHolds.parameter
    cases hParameters
    cases hNone
  case resulted =>
    intro n hMem f hRead hHolds
    obtain rfl := List.mem_singleton.mp hMem
    cases hRead
    cases hHolds.result

end SwiftDerive.Reading
