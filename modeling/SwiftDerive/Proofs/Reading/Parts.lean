import SwiftDerive.Proofs.Lists
import SwiftDerive.Proofs.Reading.Types

/-! # Parts of declarations in thinned trees

Each part of a declaration is read the same in a thinned tree: attributes and modifiers, parameters,
generic parameters, `where` clauses, accessors and associated values.
-/

namespace SwiftDerive.Grammar.Node

set_option autoImplicit false

def isOpening (n : Node) : Bool := !n.named && n.kind == "("

def isClosing (n : Node) : Bool := !n.named && n.kind == ")"

def isParenthesis (n : Node) : Bool := n.isOpening || n.isClosing

end SwiftDerive.Grammar.Node

namespace SwiftDerive.Reading

set_option autoImplicit false

open Grammar

theorem clauseParts_opening {n : Node} (hOpening : n.isOpening = true) (depth : Int)
    (ns : List Node) : clauseParts depth (n :: ns) = clauseParts (depth + 1) ns := by
  rw [Node.isOpening, Bool.and_eq_true] at hOpening
  rw [clauseParts, if_pos hOpening.left, if_pos hOpening.right]

theorem clauseParts_closing {n : Node} (hClosing : n.isClosing = true) (depth : Int)
    (ns : List Node) :
    clauseParts depth (n :: ns) = if depth - 1 = 0 then [] else clauseParts (depth - 1) ns := by
  rw [Node.isClosing, Bool.and_eq_true, beq_iff_eq] at hClosing
  rw [clauseParts, if_pos hClosing.left, hClosing.right]
  rfl

theorem clauseParts_other {n : Node} (hOther : n.isParenthesis = false) (depth : Int)
    (ns : List Node) :
    clauseParts depth (n :: ns) =
      (if depth = 0 then [] else [n].filter Node.isPart) ++ clauseParts depth ns := by
  rw [Node.isParenthesis, Bool.or_eq_false_iff, Node.isOpening, Node.isClosing] at hOther
  rw [clauseParts]
  cases hNamed : n.named with
  | false =>
    have hKinds : (n.kind == "(") = false ∧ (n.kind == ")") = false := by
      simpa [hNamed] using hOther
    simp [hKinds.left, hKinds.right, Node.isPart, hNamed]
  | true =>
    by_cases hDepth : depth = 0
    · simp [hDepth]
    · cases hComment : n.isComment <;> simp [hDepth, Node.isPart, hNamed, hComment]

theorem mem_clauseParts {depth : Int} {ns : List Node} {n : Node} (hMem : n ∈ clauseParts depth ns) :
    n ∈ ns ∧ n.isComment = false := by
  induction ns generalizing depth with
  | nil => rw [clauseParts] at hMem; cases hMem
  | cons c ns ih =>
    have hTail {depth : Int} (hInner : n ∈ clauseParts depth ns) : n ∈ c :: ns ∧ n.isComment = false :=
      ⟨List.mem_cons_of_mem c (ih hInner).left, (ih hInner).right⟩
    cases hOpening : c.isOpening with
    | true =>
      rw [clauseParts_opening hOpening] at hMem
      exact hTail hMem
    | false =>
      cases hClosing : c.isClosing with
      | true =>
        rw [clauseParts_closing hClosing] at hMem
        split at hMem
        · cases hMem
        · exact hTail hMem
      | false =>
        have hOther : c.isParenthesis = false := Bool.or_eq_false_iff.mpr ⟨hOpening, hClosing⟩
        rw [clauseParts_other hOther, List.mem_append] at hMem
        rcases hMem with hOwn | hInner
        · split at hOwn
          · cases hOwn
          · obtain ⟨hSame, hPart⟩ := List.mem_filter.mp hOwn
            obtain rfl := List.mem_singleton.mp hSame
            exact ⟨List.mem_cons_self, Node.isComment_of_isPart hPart⟩
        · exact hTail hInner

theorem constraintsIn_eq (n : Node) : constraintsIn n = constraintsAmong n.children := by
  cases n
  simp only [constraintsIn]

theorem constraintsAmong_eq_flatMap (ns : List Node) :
    constraintsAmong ns = ns.flatMap fun n =>
      if !n.isPart then []
      else if n.isOf ["inheritance_constraint", "equality_constraint"] then [n]
      else if n.kind == "type_constraint" then constraintsIn n
      else [] := by
  induction ns with
  | nil => rfl
  | cons n ns ih => rw [constraintsAmong, List.flatMap_cons, ih]

theorem mem_constraintsIn {n m : Node} (hBody : n.isBody = false) (hMem : m ∈ constraintsIn n) :
    n.Reaches m ∧ m.isOf ["inheritance_constraint", "equality_constraint"] = true := by
  induction n using Node.children_induction with
  | step n ih =>
    rw [constraintsIn_eq, constraintsAmong_eq_flatMap, List.mem_flatMap] at hMem
    obtain ⟨c, hChild, hOwn⟩ := hMem
    by_cases hPart : c.isPart = true
    · have hComment := Node.isComment_of_isPart hPart
      rw [hPart, Bool.not_true, if_neg Bool.false_ne_true] at hOwn
      split at hOwn
      · rename_i hKind
        obtain rfl := List.mem_singleton.mp hOwn
        exact ⟨.child hBody hChild hComment (.itself m), hKind⟩
      · split at hOwn
        · rename_i hKind
          obtain ⟨hReaches, hFound⟩ := ih c hChild
            (Node.isBody_of_kind (beq_iff_eq.mp hKind) (by decide)) hOwn
          exact ⟨.child hBody hChild hComment hReaches, hFound⟩
        · cases hOwn
    · rw [Bool.not_eq_true] at hPart
      rw [hPart, Bool.not_false, if_pos rfl] at hOwn
      cases hOwn

theorem found_kind {ns : List Node} {kind : String} {n : Node}
    (hFound : ns.find? (·.kind == kind) = some n) : n.kind = kind ∧ n ∈ ns :=
  ⟨by simpa using List.find?_some hFound, List.mem_of_find?_eq_some hFound⟩

theorem isBody_of_isSpecifier {n : Node} (hSpecifier : isSpecifier n = true) :
    n.isBody = false := by
  rw [← Bool.not_eq_true]
  intro hBody
  have hFunction : ("function_body".endsWith "_specifier") = false := by decide +kernel
  have hStatements : ("statements".endsWith "_specifier") = false := by decide +kernel
  rw [isSpecifier] at hSpecifier
  rcases Node.kind_of_isBody hBody with hKind | hKind
  · exact Bool.false_ne_true (hFunction ▸ hKind ▸ hSpecifier)
  · exact Bool.false_ne_true (hStatements ▸ hKind ▸ hSpecifier)

theorem isBody_of_accessorKind? {n : Node} (hKind : (accessorKind? n.kind).isSome = true) :
    n.isBody = false := by
  rw [← Bool.not_eq_true]
  intro hBody
  rcases Node.kind_of_isBody hBody with hText | hText
  · rw [hText] at hKind
    exact Bool.false_ne_true hKind
  · rw [hText] at hKind
    exact Bool.false_ne_true hKind

theorem splitOnP_map {α β : Type} (f : α → β) (p : β → Bool) (xs : List α) :
    (xs.map f).splitOnP p = (xs.splitOnP (p ∘ f)).map (List.map f) := by
  induction xs with
  | nil => simp
  | cons x xs ih =>
    rw [List.map_cons, List.splitOnP_cons_eq_if_modifyHead, List.splitOnP_cons_eq_if_modifyHead, ih]
    by_cases hSplit : p (f x) = true
    · simp [hSplit]
    · simp only [hSplit, Function.comp_apply]
      cases xs.splitOnP (p ∘ f) <;> simp

theorem mem_commaGroups {ns group : List Node} (hGroup : group ∈ commaGroups ns) {n : Node}
    (hMem : n ∈ group) : n ∈ ns ∧ n.isComment = false := by
  obtain ⟨hNode, hKept⟩ := List.mem_filter.mp (mem_of_mem_splitOnP hGroup hMem).1
  simp only [Bool.not_eq_true', Bool.or_eq_false_iff] at hKept
  exact ⟨hNode, hKept.right⟩

def CaseParameterRun.map (g : Node → Node) (run : CaseParameterRun) : CaseParameterRun :=
  { run with types := run.types.map g }

theorem types_step (src : Source) (run : CaseParameterRun) (n : Node) :
    (CaseParameterRun.step src run n).types = run.types ∨
      (CaseParameterRun.step src run n).types = run.types ++ [n] := by
  rw [CaseParameterRun.step]
  split
  · exact .inl rfl
  · split
    · exact .inr rfl
    · split
      · exact .inl rfl
      · split
        · exact .inr rfl
        · split
          · exact .inl rfl
          · exact .inl rfl

theorem mem_caseParameterRun {src : Source} {group : List Node} {run : CaseParameterRun} {n : Node}
    (hMem : n ∈ (group.foldl (CaseParameterRun.step src) run).types) :
    n ∈ run.types ∨ n ∈ group := by
  induction group generalizing run with
  | nil => exact .inl hMem
  | cons c group ih =>
    rw [List.foldl_cons] at hMem
    rcases ih hMem with hEarlier | hLater
    · rcases types_step src run c with hSame | hMore
      · exact .inl (hSame ▸ hEarlier)
      · rw [hMore, List.mem_append, List.mem_singleton] at hEarlier
        rcases hEarlier with hEarlier | rfl
        · exact .inl hEarlier
        · exact .inr List.mem_cons_self
    · exact .inr (List.mem_cons_of_mem c hLater)

namespace Thinning

variable {g : Node → Node} {keep : Node → Bool} (h : Thinning g keep) (src : Source)
include h

/-! ## Attributes and modifiers -/

theorem attributeOf {n : Node} (hBody : n.isBody = false) :
    attributeOf src (g n) = Reading.attributeOf src n := by
  simp only [Reading.attributeOf, h.parts hBody, h.chars, h.position]
  cases n.parts with
  | nil => rfl
  | cons name rest => simp only [List.map_cons, h.text, h.stop]

theorem decorationsOf {keywords : List String}
    (hKeywords : ∀ kind ∈ ["comment", "multiline_comment"], kind ∉ keywords) {n : Node}
    (hBody : n.isBody = false) :
    decorationsOf src keywords (g n) = Reading.decorationsOf src keywords n := by
  rw [Reading.decorationsOf, Reading.decorationsOf, h.children n hBody]
  refine h.foldl_thin ?_ ?_ _
  · intro c hMem hComment d
    simp only [h.kind, h.named, h.isOf]
    by_cases hModifiers : (c.kind == "modifiers") = true
    · rw [if_pos hModifiers, if_pos hModifiers,
        h.parts (Node.isBody_of_kind (beq_iff_eq.mp hModifiers) (by decide)), List.foldl_map]
      refine congrArg (fun step => c.parts.foldl step d) (funext fun d => funext fun item => ?_)
      rw [h.kind, h.text]
      by_cases hAttribute : (item.kind == "attribute") = true
      · rw [h.attributeOf src (Node.isBody_of_kind (beq_iff_eq.mp hAttribute) (by decide))]
      · rw [if_neg hAttribute, if_neg hAttribute]
    · rw [if_neg hModifiers, if_neg hModifiers]
  · intro c hComment d
    have hModifiers : (c.kind == "modifiers") = false :=
      Node.kind_of_isComment hComment (by decide) (by decide)
    simp [hModifiers, Node.isOf_of_isComment hComment hKeywords]

/-! ## Parameters -/

theorem parameterOf {n : Node} (hBody : n.isBody = false) (hClear : Clear g n)
    (attributes : List Attribute) :
    parameterOf src (g n) attributes = Reading.parameterOf src n attributes := by
  have hNames : ((g n).children.filter (·.isOf nameKinds)).map src.text =
      (n.children.filter (·.isOf nameKinds)).map src.text := by
    rw [h.children n hBody, h.filter_isOf (by decide), List.map_map]
    exact List.map_congr_left fun c _ => h.text src c
  have hTypes : Reading.typesIn src (g n).children = Reading.typesIn src n.children := by
    rw [h.children n hBody]
    exact h.typesIn_clear src fun c => hClear.child hBody
  have hVariadic : (g n).children.any (·.kind == "...") = n.children.any (·.kind == "...") := by
    rw [h.children n hBody, h.any_kind (by decide) (by decide)]
  simp only [Reading.parameterOf, hNames, hTypes, hVariadic, h.error]

theorem parameterStep {n : Node} (hClear : Clear g n) (run : ParameterRun) :
    ParameterRun.step src run (g n) = ParameterRun.step src run n := by
  simp only [ParameterRun.step, h.kind, h.raw]
  by_cases hAttribute : (n.kind == "attribute") = true
  · rw [if_pos hAttribute, if_pos hAttribute,
      h.attributeOf src (Node.isBody_of_kind (beq_iff_eq.mp hAttribute) (by decide))]
  · rw [if_neg hAttribute, if_neg hAttribute]
    by_cases hParameter : (n.kind == "parameter") = true
    · rw [h.parameterOf src (Node.isBody_of_kind (beq_iff_eq.mp hParameter) (by decide)) hClear]
    · rw [if_neg hParameter, if_neg hParameter]

theorem clauseParts (depth : Int) (ns : List Node) :
    clauseParts depth (thin g keep ns) = (Reading.clauseParts depth ns).map g := by
  induction ns generalizing depth with
  | nil => rfl
  | cons n ns ih =>
    cases hKeep : keep n with
    | true =>
      rw [thin, List.filter_cons_of_pos hKeep, List.map_cons, ← thin]
      simp only [Reading.clauseParts, h.named, h.kind, h.isComment, ih, apply_ite (List.map g),
        List.map_cons, List.map_nil]
    | false =>
      have hComment := h.comments n hKeep
      have hOpening : (n.kind == "(") = false :=
        Node.kind_of_isComment hComment (by decide) (by decide)
      have hClosing : (n.kind == ")") = false :=
        Node.kind_of_isComment hComment (by decide) (by decide)
      have hSkip : Reading.clauseParts depth (n :: ns) = Reading.clauseParts depth ns := by
        simp [Reading.clauseParts, hComment, hOpening, hClosing]
      rw [hSkip, ← ih, thin, List.filter_cons_of_neg (by rw [hKeep]; exact Bool.false_ne_true), thin]

theorem parametersOf {n : Node} (hBody : n.isBody = false) (hClear : Clear g n) :
    parametersOf src (g n) = Reading.parametersOf src n := by
  rw [Reading.parametersOf, Reading.parametersOf, h.children n hBody, h.clauseParts, List.foldlM_map]
  refine congrArg (Except.map _) (foldlM_congr (fun c hMem run => ?_) _)
  obtain ⟨hChild, hComment⟩ := mem_clauseParts hMem
  exact h.parameterStep src (hClear.child hBody hChild hComment) run

theorem bodyOf {n : Node} (hBody : n.isBody = false) : bodyOf src (g n) = Reading.bodyOf src n := by
  rw [Reading.bodyOf, Reading.bodyOf, h.children n hBody, h.find?_kind (by decide) (by decide),
    Option.map_map]
  simp only [Function.comp_def, h.start, h.stop]

/-! ## Generic parameters -/

theorem dropWhile_thin {p : Node → Bool} (hSame : ∀ n, p (g n) = p n)
    (hSkip : ∀ n, n.isComment = true → p n = false) (ns : List Node) :
    (thin g keep ns).dropWhile (!p ·) = thin g keep (ns.dropWhile (!p ·)) := by
  induction ns with
  | nil => rfl
  | cons n ns ih =>
    cases hKeep : keep n with
    | true =>
      cases hFound : p n with
      | true => simp [thin, hKeep, hSame, hFound]
      | false => simpa [thin, hKeep, hSame, hFound] using ih
    | false => simpa [thin, hKeep, hSkip n (h.comments n hKeep)] using ih

theorem genericParameterOf {n : Node} (hBody : n.isBody = false) (hClear : Clear g n) :
    genericParameterOf src (g n) = Reading.genericParameterOf src n := by
  have hName : ∀ c : Node, c.isComment = true →
      c.isOf ["type_identifier", "simple_identifier", "type_parameter_pack"] = false :=
    fun c hComment => Node.isOf_of_isComment hComment (by decide)
  have hStart := List.head?_dropWhile_not
    (fun c : Node => !c.isOf ["type_identifier", "simple_identifier", "type_parameter_pack"])
    n.children
  simp only [Reading.genericParameterOf, h.children n hBody, h.dropWhile_thin (h.isOf _) hName,
    h.error]
  cases hFound : n.children.dropWhile
      (fun c => !c.isOf ["type_identifier", "simple_identifier", "type_parameter_pack"]) with
  | nil => rfl
  | cons name rest =>
    rw [hFound] at hStart
    have hNameComment : name.isComment = false := by
      rw [← Bool.not_eq_true]
      intro hComment
      simp [hName name hComment] at hStart
    have hSublist : name :: rest ⊆ n.children :=
      hFound ▸ (List.dropWhile_sublist _).subset
    have hTypes : Reading.typesIn src (thin g keep rest) = Reading.typesIn src rest :=
      h.typesIn_clear src fun c hMem =>
        hClear.child hBody (hSublist (List.mem_cons_of_mem name hMem))
    simp only [h.thin_cons hNameComment, h.text, hTypes]

theorem genericParametersIn {n : Node} (hBody : n.isBody = false) (hClear : Clear g n) :
    genericParametersIn src (g n) = Reading.genericParametersIn src n := by
  rw [Reading.genericParametersIn, Reading.genericParametersIn,
    h.filter_parts hBody fun c => by rw [h.kind], List.mapM_map]
  refine mapM_congr fun c hFiltered => ?_
  obtain ⟨hPart, hKind⟩ := List.mem_filter.mp hFiltered
  exact h.genericParameterOf src (Node.isBody_of_kind (beq_iff_eq.mp hKind) (by decide))
    (hClear.part hBody hPart)

theorem genericParametersOf {n : Node} (hBody : n.isBody = false) (hClear : Clear g n) :
    genericParametersOf src (g n) = Reading.genericParametersOf src n := by
  rw [Reading.genericParametersOf, Reading.genericParametersOf,
    h.children n hBody, h.find?_kind (by decide) (by decide)]
  cases hFound : n.children.find? (·.kind == "type_parameters") with
  | none => rfl
  | some list =>
    obtain ⟨hKind, hMem⟩ := found_kind hFound
    exact h.genericParametersIn src (Node.isBody_of_kind hKind (by decide))
      (hClear.child hBody hMem (Node.isComment_of_kind hKind (by decide) (by decide)))

/-! ## `where` clauses -/

theorem constraintsAmong {ns : List Node}
    (hInner : ∀ n ∈ ns, n.isBody = false → constraintsIn (g n) = (Reading.constraintsIn n).map g) :
    constraintsAmong (thin g keep ns) = (Reading.constraintsAmong ns).map g := by
  induction ns with
  | nil => rfl
  | cons n ns ih =>
    have hTail := ih fun c hMem => hInner c (List.mem_cons_of_mem n hMem)
    cases hKeep : keep n with
    | true =>
      rw [thin, List.filter_cons_of_pos hKeep, List.map_cons, ← thin, Reading.constraintsAmong,
        Reading.constraintsAmong, hTail, List.map_append, h.isPart, h.isOf, h.kind]
      refine congrArg (· ++ _) ?_
      by_cases hNested : (n.kind == "type_constraint") = true
      · rw [hInner n List.mem_cons_self
          (Node.isBody_of_kind (beq_iff_eq.mp hNested) (by decide))]
        simp only [apply_ite (List.map g), List.map_cons, List.map_nil]
      · simp only [hNested, apply_ite (List.map g), List.map_cons, List.map_nil]
        rfl
    | false =>
      have hSkip : n.isPart = false := Node.isPart_of_isComment (h.comments n hKeep)
      rw [thin, List.filter_cons_of_neg (by rw [hKeep]; exact Bool.false_ne_true), ← thin, hTail,
        Reading.constraintsAmong, hSkip]
      rfl

theorem constraintsIn {n : Node} (hBody : n.isBody = false) :
    constraintsIn (g n) = (Reading.constraintsIn n).map g := by
  induction n using Node.children_induction with
  | step n ih =>
    rw [constraintsIn_eq, constraintsIn_eq, h.children n hBody]
    exact h.constraintsAmong ih

theorem constrainedStep {n : Node} (hClear : Clear g n) (found : Option TypeRef) :
    constrainedStep src found (g n) = Reading.constrainedStep src found n := by
  simp only [Reading.constrainedStep, h.kind, h.isOf, h.chars, h.text, h.typeAt src hClear]

theorem requirementOf {n : Node} (hBody : n.isBody = false) (hClear : Clear g n) :
    requirementOf src (g n) = Reading.requirementOf src n := by
  have hParts : (g n).parts.filter (·.kind != "attribute") =
      (n.parts.filter (·.kind != "attribute")).map g :=
    h.filter_parts hBody fun c => by rw [h.kind]
  have hPart : ∀ c ∈ n.parts.filter (·.kind != "attribute"), Clear g c :=
    fun c hMem => hClear.part hBody (List.mem_filter.mp hMem).left
  simp only [Reading.requirementOf, hParts, List.getLast?_map, ← List.map_dropLast, h.error, h.kind]
  generalize n.parts.filter (·.kind != "attribute") = parts at hPart ⊢
  cases hBound : parts.getLast? with
  | none => rfl
  | some bound =>
    have hRight := h.typeAt src (hPart bound (List.mem_of_getLast? hBound))
    cases hLeft : parts.dropLast with
    | nil => rfl
    | cons first rest =>
      have hSteps : ((first :: rest).map g).foldlM (Reading.constrainedStep src) none =
          (first :: rest).foldlM (Reading.constrainedStep src) none := by
        rw [List.foldlM_map]
        refine foldlM_congr (fun c hMem found => h.constrainedStep src ?_ found) none
        exact hPart c (List.dropLast_subset parts (hLeft ▸ hMem))
      simp only [List.map_cons] at hSteps
      simp only [Option.map_some, List.map_cons, hSteps, hRight, h.error]

theorem whereClauseIn {n : Node} (hBody : n.isBody = false) (hClear : Clear g n) :
    whereClauseIn src (g n) = Reading.whereClauseIn src n := by
  have hRequirements : ((Reading.constraintsIn n).map g).mapM (Reading.requirementOf src) =
      (Reading.constraintsIn n).mapM (Reading.requirementOf src) := by
    rw [List.mapM_map]
    refine mapM_congr fun c hMem => ?_
    obtain ⟨hReaches, hKind⟩ := mem_constraintsIn hBody hMem
    exact h.requirementOf src (Node.isBody_of_isOf hKind (by decide)) (hClear.below hReaches)
  rw [Reading.whereClauseIn, Reading.whereClauseIn, h.constraintsIn hBody, hRequirements]

theorem whereClauseOf {n : Node} (hBody : n.isBody = false) (hClear : Clear g n) :
    whereClauseOf src (g n) = Reading.whereClauseOf src n := by
  rw [Reading.whereClauseOf, Reading.whereClauseOf, h.children n hBody,
    h.find?_kind (by decide) (by decide)]
  cases hFound : n.children.find? (·.kind == "type_constraints") with
  | none => rfl
  | some clause =>
    obtain ⟨hKind, hMem⟩ := found_kind hFound
    have hClause := h.whereClauseIn src (Node.isBody_of_kind hKind (by decide))
      (hClear.child hBody hMem (Node.isComment_of_kind hKind (by decide) (by decide)))
    exact congrArg (Except.map some) hClause

/-! ## Accessors -/

theorem isSpecifier (n : Node) : isSpecifier (g n) = Reading.isSpecifier n := by
  rw [Reading.isSpecifier, Reading.isSpecifier, h.kind]

theorem specifier {n : Node} (hBody : n.isBody = false) :
    (if Reading.isSpecifier (g n) then some (g n) else (g n).parts.find? Reading.isSpecifier) =
      (if Reading.isSpecifier n then some n else n.parts.find? Reading.isSpecifier).map g := by
  rw [h.isSpecifier, h.parts hBody, List.find?_map, apply_ite (Option.map g)]
  have hSame : Reading.isSpecifier ∘ g = Reading.isSpecifier := funext h.isSpecifier
  rw [hSame]
  rfl

theorem accessorOf (kind : String) {n : Node} (hBody : n.isBody = false) (hClear : Clear g n) :
    accessorOf src kind (g n) = Reading.accessorOf src kind n := by
  have hName : ((g n).parts.find? (·.kind == "simple_identifier")).map src.text =
      (n.parts.find? (·.kind == "simple_identifier")).map src.text := by
    rw [h.parts hBody, List.find?_map, Option.map_map]
    simp only [Function.comp_def, h.kind, h.text]
  have hBrace : ((g n).children.find? (·.kind == "\x7b")).map
      (fun brace => src.block brace.start n.stop) =
        (n.children.find? (·.kind == "\x7b")).map fun brace => src.block brace.start n.stop := by
    rw [h.children n hBody, h.find?_kind (by decide) (by decide), Option.map_map]
    simp only [Function.comp_def, h.start]
  simp only [Reading.accessorOf, h.specifier hBody, hName, h.stop, hBrace]
  cases hFound : (if Reading.isSpecifier n then some n else n.parts.find? Reading.isSpecifier) with
  | none => rfl
  | some specifier =>
    have hSpecifier : Reading.isSpecifier specifier = true ∧ Clear g specifier := by
      split at hFound
      · rename_i hItself
        cases hFound
        exact ⟨hItself, hClear⟩
      · exact ⟨List.find?_some hFound, hClear.part hBody (List.mem_of_find?_eq_some hFound)⟩
    have hSpecifierBody := isBody_of_isSpecifier hSpecifier.left
    have hEffects := h.effectsOf src hSpecifierBody hSpecifier.right
    have hModifiers : ((g specifier).parts.filter (·.kind == "mutation_modifier")).map
        (fun m => (⟨src.text m, none⟩ : Modifier)) =
          (specifier.parts.filter (·.kind == "mutation_modifier")).map
            fun m => (⟨src.text m, none⟩ : Modifier) := by
      rw [h.filter_parts hSpecifierBody fun c => by rw [h.kind], List.map_map]
      simp only [Function.comp_def, h.text]
    simp only [Option.map_some, hEffects, hModifiers]

theorem accessorBlockOf {n : Node} (hBody : n.isBody = false) (hClear : Clear g n) :
    accessorBlockOf src (g n) = Reading.accessorBlockOf src n := by
  have hPairs : (g n).parts.filterMap
      (fun part => (accessorKind? part.kind).map fun kind => (kind, part)) =
        (n.parts.filterMap fun part => (accessorKind? part.kind).map fun kind => (kind, part)).map
          (Prod.map id g) := by
    rw [h.parts hBody, List.filterMap_map, List.map_filterMap]
    simp only [Function.comp_def, h.kind, Option.map_map, Prod.map_apply, id_eq]
  rw [Reading.accessorBlockOf, Reading.accessorBlockOf, hPairs, List.mapM_map, h.kind, h.start,
    h.stop]
  refine congrArg (· >>= _) (mapM_congr fun pair hMem => ?_)
  obtain ⟨part, hPart, hPair⟩ := List.mem_filterMap.mp hMem
  obtain ⟨kind, hKind, rfl⟩ := Option.map_eq_some_iff.mp hPair
  exact h.accessorOf src kind (isBody_of_accessorKind? (hKind ▸ rfl)) (hClear.part hBody hPart)

/-! ## Associated values -/

theorem caseParameterRun (group : List Node) (run : CaseParameterRun) :
    (group.map g).foldl (CaseParameterRun.step src) (run.map g) =
      (group.foldl (CaseParameterRun.step src) run).map g := by
  induction group generalizing run with
  | nil => rfl
  | cons n group ih =>
    have hStep : CaseParameterRun.step src (run.map g) (g n) =
        (CaseParameterRun.step src run n).map g := by
      have hTypes : (run.map g).types = run.types.map g := rfl
      simp only [CaseParameterRun.step, hTypes, List.isEmpty_map, h.isOf, h.kind, h.named, h.text,
        h.raw, apply_ite (CaseParameterRun.map g)]
      simp only [CaseParameterRun.map, List.map_append, List.map_cons, List.map_nil]
    rw [List.map_cons, List.foldl_cons, List.foldl_cons, hStep, ih]

theorem caseParameterOf (first : Node) {group : List Node}
    (hGroup : ∀ c ∈ group, c.isComment = false ∧ Clear g c) :
    caseParameterOf src (g first) (group.map g) = Reading.caseParameterOf src first group := by
  have hRun := h.caseParameterRun src group ⟨[], [], none⟩
  have hTypes : ∀ c ∈ (group.foldl (CaseParameterRun.step src) ⟨[], [], none⟩).types, c ∈ group := by
    intro c hMem
    exact (mem_caseParameterRun hMem).resolve_left List.not_mem_nil
  have hInitial : CaseParameterRun.map g ⟨[], [], none⟩ = ⟨[], [], none⟩ := rfl
  rw [hInitial] at hRun
  rw [Reading.caseParameterOf, Reading.caseParameterOf, hRun]
  generalize group.foldl (CaseParameterRun.step src) ⟨[], [], none⟩ = run at hTypes ⊢
  have hSame : Reading.typesIn src (run.types.map g) = Reading.typesIn src run.types := by
    rw [← h.thin_eq_map fun c hMem => (hGroup c (hTypes c hMem)).left]
    exact h.typesIn_clear src fun c hMem _ => (hGroup c (hTypes c hMem)).right
  simp only [CaseParameterRun.map, hSame, h.error, h.position]

theorem commaGroups (ns : List Node) :
    commaGroups (thin g keep ns) = (Reading.commaGroups ns).map (List.map g) := by
  have hTest : ∀ n, (!((g n).isOf ["(", ")"] || (g n).isComment)) =
      !(n.isOf ["(", ")"] || n.isComment) := fun n => by rw [h.isOf, h.isComment]
  have hComma : (fun n : Node => n.kind == ",") ∘ g = fun n => n.kind == "," :=
    funext fun n => by rw [Function.comp_apply, h.kind]
  rw [Reading.commaGroups, Reading.commaGroups, h.filter_thin hTest fun n hComment => by
    rw [hComment, Bool.or_true, Bool.not_true], splitOnP_map, hComma]

theorem caseParametersOf {n : Node} (hBody : n.isBody = false) (hClear : Clear g n) :
    caseParametersOf src (g n) = Reading.caseParametersOf src n := by
  rw [Reading.caseParametersOf, Reading.caseParametersOf, h.children n hBody, h.commaGroups,
    List.foldlM_map]
  refine foldlM_congr (fun group hGroup parameters => ?_) []
  cases group with
  | nil => rfl
  | cons first rest =>
    have hMembers : ∀ c ∈ first :: rest, c.isComment = false ∧ Clear g c := by
      intro c hMem
      obtain ⟨hChild, hComment⟩ := mem_commaGroups hGroup hMem
      exact ⟨hComment, hClear.child hBody hChild hComment⟩
    have hParameter := h.caseParameterOf src first hMembers
    rw [List.map_cons] at hParameter ⊢
    exact congrArg (Except.map _) hParameter

end Thinning

end SwiftDerive.Reading
