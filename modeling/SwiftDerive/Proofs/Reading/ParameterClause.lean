import Mathlib.Data.List.DropRight
import SwiftDerive.Proofs.Reading.Placeholder

/-! # The first parameter clause

A function or an initializer has the parameters of the first clause in parentheses among the children
of its node. The clause ends at the closing parenthesis that matches the opening one, or with the
children. Each parameter has the attributes between the one before and itself, and the text of the
last value between itself and the next one as its default. What stands outside of the clause has no
influence.
-/

namespace SwiftDerive.Grammar.Node

set_option autoImplicit false

/-! ## Kinds of nodes -/

def isAttribute (n : Node) : Bool := n.named && n.kind == "attribute"

def isParameter (n : Node) : Bool := n.named && n.kind == "parameter"

/-- A named node of a clause that gives a parameter its default. -/
def isValue (n : Node) : Bool := n.isPart && !n.isOf Reading.clauseKinds

theorem isClosing_of_isOpening {n : Node} (hOpening : n.isOpening = true) : n.isClosing = false := by
  rw [isOpening, Bool.and_eq_true, beq_iff_eq] at hOpening
  rw [isClosing, hOpening.right]
  exact Bool.and_false _

theorem isPart_of_isParenthesis {n : Node} (hParenthesis : n.isParenthesis = true) :
    n.isPart = false := by
  rw [isParenthesis, isOpening, isClosing, ← Bool.and_or_distrib_left, Bool.and_eq_true,
    Bool.not_eq_true'] at hParenthesis
  rw [isPart, hParenthesis.left, Bool.false_and]

theorem isPart_of_isOpening {n : Node} (hOpening : n.isOpening = true) : n.isPart = false :=
  isPart_of_isParenthesis (Bool.or_eq_true_iff.mpr (.inl hOpening))

theorem isPart_of_isClosing {n : Node} (hClosing : n.isClosing = true) : n.isPart = false :=
  isPart_of_isParenthesis (Bool.or_eq_true_iff.mpr (.inr hClosing))

theorem named_and_kind {kind : String} (hComment : kind ≠ "comment")
    (hMultiline : kind ≠ "multiline_comment") (n : Node) :
    (n.named && n.kind == kind) = (n.isPart && n.kind == kind) := by
  cases hKind : n.kind == kind with
  | false => rw [Bool.and_false, Bool.and_false]
  | true =>
    rw [isPart, isComment_of_kind (beq_iff_eq.mp hKind) hComment hMultiline, Bool.not_false,
      Bool.and_true, Bool.and_true]

theorem kind_of_isValue {n : Node} (hValue : n.isValue = true) :
    n.isAttribute = false ∧ n.isParameter = false := by
  have hKinds : n.kind ≠ "attribute" ∧ n.kind ≠ "parameter" := by
    simpa [isOf, Reading.clauseKinds] using (Bool.and_eq_true_iff.mp hValue).right
  simp [isAttribute, isParameter, hKinds.left, hKinds.right]

theorem isValue_of_isParameter {n : Node} (hParameter : n.isParameter = true) :
    n.isValue = false := by
  rw [← Bool.not_eq_true]
  intro hValue
  rw [(kind_of_isValue hValue).right] at hParameter
  cases hParameter

/-! ## Matching parentheses -/

/-- Nodes among which each parenthesis has its match. -/
inductive Balanced : List Node → Prop
  | nil : Balanced []
  | other {n : Node} {ns : List Node} (hOther : n.isParenthesis = false) (hRest : Balanced ns) :
      Balanced (n :: ns)
  | nested {opening closing : Node} {inner rest : List Node} (hOpening : opening.isOpening = true)
      (hInner : Balanced inner) (hClosing : closing.isClosing = true) (hRest : Balanced rest) :
      Balanced (opening :: (inner ++ closing :: rest))

/-- None of the closing parentheses matches one that is opened before the nodes. -/
def LeftOpen (ns : List Node) : Prop :=
  ∀ inner closing behind, ns = inner ++ closing :: behind → closing.isClosing = true →
    ¬ Balanced inner

/-- The nodes before the closing parenthesis that matches one opened before them, or all nodes if none
does. -/
inductive UpToClosing (clause : List Node) : List Node → Prop
  | closed {closing : Node} {behind : List Node} (hClause : Balanced clause)
      (hClosing : closing.isClosing = true) : UpToClosing clause (clause ++ closing :: behind)
  | unclosed (hClause : LeftOpen clause) : UpToClosing clause clause

/-- The nodes of the first clause in parentheses: the first parenthesis opens it. -/
def FirstClause (clause ns : List Node) : Prop :=
  ∃ opening rest, ns.dropWhile (!·.isParenthesis) = opening :: rest ∧ opening.isOpening = true ∧
    UpToClosing clause rest

theorem Balanced.isClosing_head {n : Node} {ns : List Node} (h : Balanced (n :: ns)) :
    n.isClosing = false := by
  cases h with
  | other hOther _ => exact (Bool.or_eq_false_iff.mp hOther).right
  | nested hOpening _ _ _ => exact isClosing_of_isOpening hOpening

theorem Balanced.unique {inner other : List Node} (hInner : Balanced inner) (hOther : Balanced other)
    {closing last : Node} {rest more : List Node} (hClosing : closing.isClosing = true)
    (hLast : last.isClosing = true) (hSame : inner ++ closing :: rest = other ++ last :: more) :
    inner = other := by
  induction hInner generalizing other closing last rest more with
  | nil =>
    cases other with
    | nil => rfl
    | cons n ns =>
      obtain ⟨rfl, -⟩ := List.cons.inj hSame
      rw [hOther.isClosing_head] at hClosing
      cases hClosing
  | @other n ns hNode _ ih =>
    cases hOther with
    | nil =>
      obtain ⟨rfl, -⟩ := List.cons.inj hSame
      rw [(Bool.or_eq_false_iff.mp hNode).right] at hLast
      cases hLast
    | other _ hRest =>
      obtain ⟨rfl, hTail⟩ := List.cons.inj hSame
      rw [ih hRest hClosing hLast hTail]
    | nested hOpening _ _ _ =>
      obtain ⟨rfl, -⟩ := List.cons.inj hSame
      rw [(Bool.or_eq_false_iff.mp hNode).left] at hOpening
      cases hOpening
  | @nested opening middle inner tail hOpening _ hMiddle _ ihInner ihTail =>
    cases hOther with
    | nil =>
      obtain ⟨rfl, -⟩ := List.cons.inj hSame
      rw [isClosing_of_isOpening hOpening] at hLast
      cases hLast
    | other hNode _ =>
      obtain ⟨rfl, -⟩ := List.cons.inj hSame
      rw [(Bool.or_eq_false_iff.mp hNode).left] at hOpening
      cases hOpening
    | nested _ hInner hClosed hTail =>
      -- The nested nodes agree, and then what is behind them starts at the same place.
      simp only [List.cons_append, List.append_assoc] at hSame
      obtain ⟨rfl, hBehind⟩ := List.cons.inj hSame
      obtain rfl := ihInner hInner hMiddle hClosed hBehind
      obtain ⟨rfl, hRest⟩ := List.cons.inj (List.append_cancel_left hBehind)
      rw [ihTail hTail hClosing hLast hRest]

theorem UpToClosing.unique {clause other rest : List Node} (hClause : UpToClosing clause rest)
    (hOther : UpToClosing other rest) : clause = other := by
  generalize hSame : rest = same at hOther
  cases hClause with
  | closed hInner hClosing =>
    cases hOther with
    | closed hBalanced hLast => exact hInner.unique hBalanced hClosing hLast hSame
    | unclosed hOpen => exact absurd hInner (hOpen _ _ _ hSame.symm hClosing)
  | unclosed hOpen =>
    cases hOther with
    | closed hBalanced hLast => exact absurd hBalanced (hOpen _ _ _ hSame hLast)
    | unclosed _ => exact hSame

theorem exists_upToClosing (rest : List Node) : ∃ clause, UpToClosing clause rest := by
  by_cases hOpen : LeftOpen rest
  · exact ⟨rest, .unclosed hOpen⟩
  · simp only [LeftOpen, not_forall, not_not] at hOpen
    obtain ⟨clause, closing, behind, rfl, hClosing, hClause⟩ := hOpen
    exact ⟨clause, .closed hClause hClosing⟩

/-- Nodes whose first parenthesis opens have one first clause. -/
theorem existsUnique_firstClause {ns : List Node} {opening : Node}
    (hFirst : ns.find? isParenthesis = some opening) (hKind : opening.kind = "(") :
    ∃! clause, FirstClause clause ns := by
  have hOpening : opening.isOpening = true := by
    have hParenthesis : opening.isParenthesis = true := List.find?_some hFirst
    simpa [isParenthesis, isOpening, isClosing, hKind] using hParenthesis
  rw [List.find?_eq_head?_dropWhile_not] at hFirst
  obtain ⟨rest, hBehind⟩ := List.head?_eq_some_iff.mp hFirst
  obtain ⟨clause, hClause⟩ := exists_upToClosing rest
  refine ⟨clause, ⟨opening, rest, hBehind, hOpening, hClause⟩, ?_⟩
  rintro other ⟨first, more, hOther, -, hOtherClause⟩
  obtain ⟨-, rfl⟩ := List.cons.inj (hOther.symm.trans hBehind)
  exact hOtherClause.unique hClause

/-! ## Nodes that stay open -/

theorem LeftOpen.tail {n : Node} {ns : List Node} (hOpen : LeftOpen (n :: ns))
    (hOther : n.isParenthesis = false) : LeftOpen ns := by
  rintro inner closing behind rfl hClosing hInner
  exact hOpen (n :: inner) closing behind rfl hClosing (.other hOther hInner)

theorem LeftOpen.behind {opening closing : Node} {inner rest : List Node}
    (hOpen : LeftOpen (opening :: (inner ++ closing :: rest))) (hOpening : opening.isOpening = true)
    (hInner : Balanced inner) (hClosing : closing.isClosing = true) : LeftOpen rest := by
  rintro more last behind rfl hLast hMore
  refine hOpen (opening :: (inner ++ closing :: more)) last behind ?_ hLast
    (.nested hOpening hInner hClosing hMore)
  simp only [List.cons_append, List.append_assoc]

theorem LeftOpen.isClosing_head {n : Node} {ns : List Node} (hOpen : LeftOpen (n :: ns)) :
    n.isClosing = false := by
  rw [← Bool.not_eq_true]
  exact fun hClosing => hOpen [] n ns rfl hClosing .nil

end SwiftDerive.Grammar.Node

namespace SwiftDerive.Reading

set_option autoImplicit false

open Grammar Grammar.Node

/-! ## The parts of the clause -/

theorem clauseParts_dropWhile (ns : List Node) :
    clauseParts 0 (ns.dropWhile (!·.isParenthesis)) = clauseParts 0 ns := by
  induction ns with
  | nil => rfl
  | cons n ns ih =>
    cases hParenthesis : n.isParenthesis with
    | true => rw [List.dropWhile_cons_of_neg (by simp [hParenthesis])]
    | false =>
      rw [List.dropWhile_cons_of_pos (by simp [hParenthesis]), ih,
        clauseParts_other hParenthesis, if_pos rfl, List.nil_append]

theorem clauseParts_balanced {inner : List Node} (hInner : Balanced inner) {depth : Int}
    (hDepth : 0 < depth) (rest : List Node) :
    clauseParts depth (inner ++ rest) = inner.filter isPart ++ clauseParts depth rest := by
  induction hInner generalizing depth rest with
  | nil => rfl
  | @other n ns hOther _ ih =>
    rw [List.cons_append, clauseParts_other hOther, if_neg (by omega), ih hDepth,
      ← List.append_assoc, ← List.filter_append, List.singleton_append]
  | @nested opening closing inner more hOpening _ hClosing _ ihInner ihRest =>
    rw [List.cons_append, List.append_assoc, List.cons_append, clauseParts_opening hOpening,
      ihInner (by omega), clauseParts_closing hClosing, if_neg (by omega), Int.add_sub_cancel,
      ihRest hDepth]
    simp [isPart_of_isOpening hOpening, isPart_of_isClosing hClosing]

theorem clauseParts_leftOpen {ns : List Node} (hOpen : LeftOpen ns) {depth : Int}
    (hDepth : 0 < depth) : clauseParts depth ns = ns.filter isPart := by
  -- Behind a nested clause the search goes on, so the induction is on the length.
  induction hLength : ns.length using Nat.strongRecOn generalizing ns depth with
  | ind length ih =>
    cases ns with
    | nil => rfl
    | cons n ns =>
      rw [List.length_cons] at hLength
      cases hOpening : n.isOpening with
      | false =>
        have hOther : n.isParenthesis = false := by
          rw [isParenthesis, hOpening, hOpen.isClosing_head, Bool.or_false]
        rw [clauseParts_other hOther, if_neg (by omega),
          ih ns.length (by omega) (hOpen.tail hOther) hDepth rfl, ← List.filter_append,
          List.singleton_append]
      | true =>
        rw [clauseParts_opening hOpening,
          List.filter_cons_of_neg (by simp [isPart_of_isOpening hOpening])]
        obtain ⟨inner, hInner⟩ := exists_upToClosing ns
        cases hInner with
        | unclosed hInside => exact ih ns.length (by omega) hInside (by omega) rfl
        | @closed closing rest hBalanced hClosing =>
          have hRest := hOpen.behind hOpening hBalanced hClosing
          have hShorter : rest.length < length := by
            simp only [List.length_append, List.length_cons] at hLength
            omega
          rw [clauseParts_balanced hBalanced (by omega), clauseParts_closing hClosing,
            if_neg (by omega), Int.add_sub_cancel, ih rest.length hShorter hRest hDepth rfl]
          simp [isPart_of_isClosing hClosing]

/-- The parts of the first clause, at whatever depth, and nothing else. -/
theorem clauseParts_firstClause {clause ns : List Node} (hFirst : FirstClause clause ns) :
    clauseParts 0 ns = clause.filter isPart := by
  obtain ⟨opening, rest, hBehind, hOpening, hClause⟩ := hFirst
  rw [← clauseParts_dropWhile, hBehind, clauseParts_opening hOpening]
  cases hClause with
  | closed hBalanced hClosing =>
    rw [clauseParts_balanced hBalanced (by omega), clauseParts_closing hClosing,
      if_pos (by omega), List.append_nil]
  | unclosed hOpen => exact clauseParts_leftOpen hOpen (by omega)

/-! ## What is read of a clause -/

section

variable (src : Source)

def ReadableParameter (n : Node) : Prop := ∃ p, parameterOf src n [] = .ok p

/-- The attributes behind the last parameter, which are those of the next. -/
def waitingAttributes (front : List Node) : List Attribute :=
  ((front.rtakeWhile (!·.isParameter)).filter isAttribute).map (attributeOf src)

/-- The text of the last value before the next parameter. -/
def defaultBehind (behind : List Node) : Option String :=
  ((behind.takeWhile (!·.isParameter)).filter isValue).getLast?.map src.raw

/-- There is one parameter for each of the clause, at its place: what its node gives, with the
attributes before it and the default behind it. -/
structure ReadsClause (clause : List Node) (parameters : List Parameter) : Prop where
  length : parameters.length = clause.countP isParameter
  parameter : ∀ front n behind, clause = front ++ n :: behind → n.isParameter = true →
    ∃ p, parameterOf src n [] = .ok p ∧ parameters[front.countP isParameter]? =
      some { p with
        attributes := waitingAttributes src front
        defaultValue := defaultBehind src behind }

structure ParameterRun.Reads (seen : List Node) (run : ParameterRun) : Prop where
  parameters : ReadsClause src seen run.parameters
  attributes : run.attributes = waitingAttributes src seen

def ParameterRun.pass (run : ParameterRun) (n : Node) : Except ParseError ParameterRun :=
  if n.isPart then run.step src n else pure run

theorem ParameterRun.reads_start : ParameterRun.Reads src [] ⟨[], []⟩ where
  parameters :=
    { length := rfl
      parameter := fun front n behind hSplit => absurd hSplit (by simp) }
  attributes := rfl

end

section

variable {src : Source}

theorem waitingAttributes_concat (front : List Node) (n : Node) :
    waitingAttributes src (front ++ [n]) =
      if n.isParameter then []
      else waitingAttributes src front ++ ([n].filter isAttribute).map (attributeOf src) := by
  rw [waitingAttributes, List.rtakeWhile_concat]
  cases n.isParameter with
  | true => rfl
  | false => simp [waitingAttributes]

theorem defaultBehind_concat (behind : List Node) (n : Node) :
    defaultBehind src (behind ++ [n]) =
      if n.isValue = true ∧ behind.countP isParameter = 0 then some (src.raw n)
      else defaultBehind src behind := by
  by_cases hNone : behind.countP isParameter = 0
  · have hAll : ∀ c ∈ behind, (!c.isParameter) = true := by simpa using hNone
    rw [defaultBehind, defaultBehind, List.takeWhile_append_of_pos hAll,
      List.takeWhile_eq_self_iff.mpr hAll, List.filter_append]
    cases hValue : n.isValue with
    | true => simp [hValue, (kind_of_isValue hValue).right, hNone]
    | false => cases hParameter : n.isParameter <;> simp [hValue, hParameter]
  · have hStops : (behind.takeWhile (!·.isParameter)).length ≠ behind.length := by
      intro hLength
      have hSame := (List.takeWhile_prefix (fun c : Node => !c.isParameter)).eq_of_length hLength
      exact hNone (by simpa using List.takeWhile_eq_self_iff.mp hSame)
    rw [if_neg (fun h => hNone h.right), defaultBehind, List.takeWhile_append, if_neg hStops]
    rfl

theorem parameterOf_eq_map (n : Node) (attributes : List Attribute) :
    parameterOf src n attributes =
      (parameterOf src n []).map fun p => { p with attributes } := by
  simp only [parameterOf]
  cases typesIn src n.children with
  | error e => rfl
  | ok types =>
    cases hNames : (n.children.filter (·.isOf nameKinds)).map src.text with
    | nil => rfl
    | cons name names => cases types <;> rfl

theorem pass_eq (run : ParameterRun) (n : Node) :
    run.pass src n =
      if n.isParameter then
        (parameterOf src n []).map fun p =>
          ⟨run.parameters ++ [{ p with attributes := run.attributes }], []⟩
      else if n.isValue then
        .ok { run with
          parameters := modifyLast (fun p => { p with defaultValue := some (src.raw n) })
            run.parameters }
      else .ok { run with
          attributes := run.attributes ++ ([n].filter isAttribute).map (attributeOf src) } := by
  have hAttribute : n.isAttribute = (n.isPart && n.kind == "attribute") :=
    named_and_kind (by decide) (by decide) n
  have hParameter : n.isParameter = (n.isPart && n.kind == "parameter") :=
    named_and_kind (by decide) (by decide) n
  rw [ParameterRun.pass, ParameterRun.step]
  cases hPart : n.isPart with
  | false =>
    rw [hPart, Bool.false_and] at hAttribute hParameter
    simp [hAttribute, hParameter, isValue, hPart, pure, Except.pure]
  | true =>
    rw [hPart, Bool.true_and] at hAttribute hParameter
    rw [if_pos rfl]
    by_cases hIsAttribute : n.kind = "attribute"
    · simp [hAttribute, hParameter, isValue, isOf, clauseKinds, hPart, hIsAttribute]
    · by_cases hIsParameter : n.kind = "parameter"
      · rw [parameterOf_eq_map]
        simp only [hParameter, hIsParameter]
        cases parameterOf src n [] <;> rfl
      · simp [hParameter, isValue, isOf, clauseKinds, hPart, hIsAttribute, hIsParameter]

namespace ReadsClause

variable {seen : List Node} {parameters : List Parameter} {n : Node}

theorem length_split {front behind : List Node} (h : ReadsClause src (front ++ n :: behind) parameters)
    (hParameter : n.isParameter = true) :
    parameters.length = front.countP isParameter + 1 + behind.countP isParameter := by
  rw [h.length, List.countP_append, List.countP_cons_of_pos hParameter]
  omega

theorem concat_other (h : ReadsClause src seen parameters) (hParameter : n.isParameter = false)
    (hValue : n.isValue = false) : ReadsClause src (seen ++ [n]) parameters where
  length := by simp [h.length, hParameter]
  parameter front m behind hSplit hKind := by
    rcases eq_or_exists_of_concat_eq hSplit with ⟨-, rfl, -⟩ | ⟨more, rfl, rfl⟩
    · rw [hParameter] at hKind
      cases hKind
    · rw [defaultBehind_concat, if_neg (by simp [hValue])]
      exact h.parameter front m more rfl hKind

theorem concat_parameter (h : ReadsClause src seen parameters) (hParameter : n.isParameter = true)
    {p : Parameter} (hRead : parameterOf src n [] = .ok p) :
    ReadsClause src (seen ++ [n])
      (parameters ++ [{ p with attributes := waitingAttributes src seen }]) where
  length := by simp [h.length, hParameter]
  parameter front m behind hSplit hKind := by
    rcases eq_or_exists_of_concat_eq hSplit with ⟨rfl, rfl, rfl⟩ | ⟨more, rfl, rfl⟩
    · refine ⟨p, hRead, ?_⟩
      have hNone : defaultBehind src [] = p.defaultValue := (defaultValue_parameterOf hRead).symm
      rw [← h.length, List.getElem?_concat_length, hNone]
    · obtain ⟨q, hOwn, hPlace⟩ := h.parameter front m more rfl hKind
      refine ⟨q, hOwn, ?_⟩
      have hBefore : front.countP isParameter < parameters.length := by
        have hLength := h.length_split hKind
        omega
      rw [List.getElem?_append_left hBefore, hPlace, defaultBehind_concat,
        if_neg (by simp [isValue_of_isParameter hParameter])]

theorem concat_value (h : ReadsClause src seen parameters) (hParameter : n.isParameter = false)
    (hValue : n.isValue = true) :
    ReadsClause src (seen ++ [n])
      (modifyLast (fun p => { p with defaultValue := some (src.raw n) }) parameters) where
  length := by simp [length_modifyLast, h.length, hParameter]
  parameter front m behind hSplit hKind := by
    rcases eq_or_exists_of_concat_eq hSplit with ⟨-, rfl, -⟩ | ⟨more, rfl, rfl⟩
    · rw [hParameter] at hKind
      cases hKind
    · obtain ⟨p, hRead, hPlace⟩ := h.parameter front m more rfl hKind
      refine ⟨p, hRead, ?_⟩
      -- Only the last parameter changes, which is the one with no parameter behind it.
      have hLast : front.countP isParameter + 1 = parameters.length ↔
          more.countP isParameter = 0 := by
        have hLength := h.length_split hKind
        omega
      rw [getElem?_modifyLast, hPlace, defaultBehind_concat]
      by_cases hNone : more.countP isParameter = 0
      · rw [if_pos (hLast.mpr hNone), if_pos ⟨hValue, hNone⟩, Option.map_some]
      · rw [if_neg (mt hLast.mp hNone), if_neg (fun hBoth => hNone hBoth.right)]

end ReadsClause

/-- One node more of the clause: the parameters and the waiting attributes are those of the nodes so
far. -/
theorem reads_pass {seen : List Node} {run : ParameterRun} {n : Node} (hRun : run.Reads src seen)
    (hReadable : n.isParameter = true → ReadableParameter src n) :
    ∃ next, run.pass src n = .ok next ∧ next.Reads src (seen ++ [n]) := by
  rw [pass_eq]
  cases hParameter : n.isParameter with
  | true =>
    obtain ⟨p, hRead⟩ := hReadable hParameter
    refine ⟨_, by rw [if_pos rfl, hRead]; rfl, ?_, ?_⟩
    · rw [hRun.attributes]
      exact hRun.parameters.concat_parameter hParameter hRead
    · rw [waitingAttributes_concat, if_pos hParameter]
  | false =>
    rw [if_neg Bool.false_ne_true]
    cases hValue : n.isValue with
    | true =>
      refine ⟨_, if_pos rfl, hRun.parameters.concat_value hParameter hValue, ?_⟩
      have hNone : [n].filter isAttribute = [] := by simp [(kind_of_isValue hValue).left]
      rw [waitingAttributes_concat, hParameter, if_neg Bool.false_ne_true, hNone, List.map_nil,
        List.append_nil, hRun.attributes]
    | false =>
      refine ⟨_, if_neg Bool.false_ne_true, hRun.parameters.concat_other hParameter hValue, ?_⟩
      rw [waitingAttributes_concat, hParameter, if_neg Bool.false_ne_true, hRun.attributes]

theorem reads_foldlM {rest seen : List Node} {run : ParameterRun} (hRun : run.Reads src seen)
    (hReadable : ∀ n ∈ rest, n.isParameter = true → ReadableParameter src n) :
    ∃ last, rest.foldlM (ParameterRun.pass src) run = .ok last ∧ last.Reads src (seen ++ rest) := by
  induction rest generalizing seen run with
  | nil => exact ⟨run, rfl, by rwa [List.append_nil]⟩
  | cons n rest ih =>
    obtain ⟨hHead, hTail⟩ := List.forall_mem_cons.mp hReadable
    obtain ⟨next, hPass, hNext⟩ := reads_pass hRun hHead
    obtain ⟨last, hLast, hReads⟩ := ih hNext hTail
    refine ⟨last, (foldlM_cons_of_ok hPass rest).trans hLast, ?_⟩
    rwa [List.append_assoc] at hReads

theorem parametersOf_eq {clause : List Node} {n : Node} (hClause : FirstClause clause n.children) :
    parametersOf src n =
      (clause.foldlM (ParameterRun.pass src) ⟨[], []⟩).map ParameterRun.parameters := by
  rw [parametersOf, clauseParts_firstClause hClause, List.foldlM_filter]
  rfl

end

/-- Among the children of a node whose first parenthesis opens there is one first clause. Nodes with
the same first clause are read alike. Where the parameters of the clause are readable, they are what
is read, each with its attributes and its default. -/
theorem parametersOf_first_clause (src : Source) {n opening : Node}
    (hFirst : n.children.find? isParenthesis = some opening) (hKind : opening.kind = "(") :
    (∃! clause, FirstClause clause n.children) ∧
      ∀ clause, FirstClause clause n.children →
        (∀ m : Node, FirstClause clause m.children → parametersOf src m = parametersOf src n) ∧
        ((∀ c ∈ clause, c.isParameter = true → ReadableParameter src c) →
          ∃ parameters, parametersOf src n = .ok parameters ∧
            ReadsClause src clause parameters) := by
  refine ⟨existsUnique_firstClause hFirst hKind, fun clause hClause => ⟨?outside, ?inside⟩⟩
  case outside =>
    intro m hOther
    rw [parametersOf_eq hOther, parametersOf_eq hClause]
  case inside =>
    intro hReadable
    obtain ⟨last, hLast, hReads⟩ := reads_foldlM (ParameterRun.reads_start src) hReadable
    refine ⟨last.parameters, ?_, hReads.parameters⟩
    rw [parametersOf_eq hClause, hLast]
    rfl

/-- The function `func f(@A x: A = 5, @B y: B)(z: C) \x7b\x7d`, with a second clause. -/
def curriedSource : Source := ⟨"func f(@A x: A = 5, @B y: B)(z: C) \x7b\x7d".toList, 0⟩

def letterType (start : Nat) : Node :=
  ⟨"user_type", true, false, false, false, start, start + 1,
    [token "type_identifier" true start (start + 1)]⟩

def letterAttribute (start : Nat) : Node :=
  ⟨"attribute", true, false, false, false, start, start + 2,
    [token "@" false start (start + 1), letterType (start + 1)]⟩

def letterParameter (start : Nat) : Node :=
  ⟨"parameter", true, false, false, false, start, start + 4,
    [token "simple_identifier" true start (start + 1), token ":" false (start + 1) (start + 2),
     letterType (start + 3)]⟩

def curriedClause : List Node :=
  [letterAttribute 7, letterParameter 10, token "=" false 15 16, token "integer_literal" true 17 18,
   token "," false 18 19, letterAttribute 20, letterParameter 23]

def curriedFunction : Node :=
  ⟨"function_declaration", true, false, false, false, 0, 37,
    [token "func" false 0 4, token "simple_identifier" true 5 6] ++ token "(" false 6 7 ::
      (curriedClause ++ token ")" false 27 28 ::
        [token "(" false 28 29, letterParameter 29, token ")" false 33 34,
         token "function_body" true 35 37])⟩

theorem parametersOf_first_clause_curried :
    curriedFunction.children.find? isParenthesis = some (token "(" false 6 7) ∧
      FirstClause curriedClause curriedFunction.children ∧
      (∀ c ∈ curriedClause, c.isParameter = true → ReadableParameter curriedSource c) ∧
      ∃ parameters, parametersOf curriedSource curriedFunction = .ok parameters ∧
        ReadsClause curriedSource curriedClause parameters ∧
        parameters.map (·.defaultValue) = [some "5", none] ∧
        parameters.map (·.attributes.map (·.name)) = [["A"], ["B"]] := by
  have hFirst : curriedFunction.children.find? isParenthesis = some (token "(" false 6 7) := rfl
  have hClause : FirstClause curriedClause curriedFunction.children := by
    refine ⟨token "(" false 6 7, _, rfl, rfl, .closed ?_ rfl⟩
    exact .other rfl (.other rfl (.other rfl (.other rfl (.other rfl (.other rfl
      (.other rfl .nil))))))
  have hParameters : curriedClause.filter isParameter = [letterParameter 10, letterParameter 23] :=
    rfl
  have hReadable : ∀ c ∈ curriedClause, c.isParameter = true → ReadableParameter curriedSource c := by
    intro c hMem hParameter
    have hOwn := List.mem_filter.mpr ⟨hMem, hParameter⟩
    rw [hParameters] at hOwn
    rcases List.mem_pair.mp hOwn with rfl | rfl
    · exact ⟨_, rfl⟩
    · exact ⟨_, rfl⟩
  obtain ⟨-, hReads⟩ := parametersOf_first_clause curriedSource hFirst rfl
  obtain ⟨parameters, hRead, hParts⟩ := (hReads curriedClause hClause).right hReadable
  refine ⟨hFirst, hClause, hReadable, parameters, hRead, hParts, ?_⟩
  cases hRead
  exact ⟨rfl, rfl⟩

end SwiftDerive.Reading
