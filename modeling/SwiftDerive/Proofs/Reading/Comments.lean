import SwiftDerive.Proofs.Reading.Declarations

/-! # Comments

A tree may have comments between any two children of any node. The reader passes over them except in
three places, where it looks at the child behind `func`, at the child behind `init`, and at the last
child of a metatype.
-/

namespace SwiftDerive.Grammar.Node

set_option autoImplicit false

open Reading

mutual

def withoutComments (n : Node) : Node :=
  match n with
  | ⟨kind, named, missing, isError, hasError, start, stop, children⟩ =>
    ⟨kind, named, missing, isError, hasError, start, stop, withoutCommentsAmong children⟩

def withoutCommentsAmong : List Node → List Node
  | [] => []
  | n :: ns =>
    if n.isComment then withoutCommentsAmong ns else n.withoutComments :: withoutCommentsAmong ns

end

/-- The child behind the first one of a kind. -/
def behind? (kind : String) : List Node → Option Node
  | [] => none
  | n :: ns => if n.kind == kind then ns.head? else behind? kind ns

def uncommented (ns : List Node) : List Node := ns.filter (!·.isComment)

theorem uncommented_cons {n : Node} (hComment : n.isComment = false) (ns : List Node) :
    uncommented (n :: ns) = n :: uncommented ns :=
  List.filter_cons_of_pos (by rw [hComment]; rfl)

/-- A comment stands behind the `func` of a function. -/
def nameInterrupted (n : Node) : Bool :=
  n.isOf ["function_declaration", "protocol_function_declaration"] &&
    (behind? "func" n.children).any isComment

def markInterrupted (n : Node) : Bool :=
  n.kind == "init_declaration" && (behind? "init" n.children).any isComment &&
    (optionalMark? (uncommented n.children)).isSome

def endInterrupted (n : Node) : Bool :=
  n.kind == "metatype" && n.children.getLast?.any isComment &&
    (uncommented n.children).getLast?.any (·.kind == "Protocol")

def interrupted (n : Node) : Bool :=
  n.nameInterrupted || n.markInterrupted || n.endInterrupted

mutual

/-- Whether some node that the reader comes to is interrupted. -/
def interruptedBelow (n : Node) : Bool :=
  match n with
  | ⟨kind, named, missing, isError, hasError, start, stop, children⟩ =>
    let n : Node := ⟨kind, named, missing, isError, hasError, start, stop, children⟩
    n.interrupted || (!n.isBody && interruptedAmong children)

def interruptedAmong : List Node → Bool
  | [] => false
  | n :: ns => (!n.isComment && n.interruptedBelow) || interruptedAmong ns

end

theorem withoutCommentsAmong_eq (ns : List Node) :
    withoutCommentsAmong ns = thin withoutComments (!·.isComment) ns := by
  induction ns with
  | nil => rfl
  | cons n ns ih =>
    rw [withoutCommentsAmong, ih, thin, thin, List.filter_cons]
    cases n.isComment <;> rfl

theorem withoutComments_children (n : Node) :
    n.withoutComments.children = (uncommented n.children).map withoutComments := by
  cases n
  rw [withoutComments, withoutCommentsAmong_eq]
  rfl

theorem thinning_withoutComments : Thinning withoutComments (!·.isComment) where
  kind n := by cases n; rw [withoutComments]
  named n := by cases n; rw [withoutComments]
  missing n := by cases n; rw [withoutComments]
  start n := by cases n; rw [withoutComments]
  stop n := by cases n; rw [withoutComments]
  children n _ := withoutComments_children n
  comments n hDropped := by simpa using hDropped

theorem interruptedBelow_eq (n : Node) :
    n.interruptedBelow = (n.interrupted || (!n.isBody && interruptedAmong n.children)) := by
  cases n
  rw [interruptedBelow]

theorem interruptedAmong_eq (ns : List Node) :
    interruptedAmong ns = ns.any fun n => !n.isComment && n.interruptedBelow := by
  induction ns with
  | nil => rfl
  | cons n ns ih => rw [interruptedAmong, ih, List.any_cons]

theorem interruptedBelow_iff (n : Node) :
    n.interruptedBelow = true ↔ ∃ m, n.Reaches m ∧ m.interrupted = true := by
  constructor
  · induction n using Node.children_induction with
    | step n ih =>
      intro hBelow
      rw [interruptedBelow_eq, interruptedAmong_eq, Bool.or_eq_true, Bool.and_eq_true,
        List.any_eq_true] at hBelow
      rcases hBelow with hHere | ⟨hBody, c, hMem, hInner⟩
      · exact ⟨n, .itself n, hHere⟩
      · rw [Bool.and_eq_true, Bool.not_eq_true'] at hInner
        obtain ⟨m, hReaches, hFound⟩ := ih c hMem hInner.right
        exact ⟨m, .child (by simpa using hBody) hMem hInner.left hReaches, hFound⟩
  · rintro ⟨m, hReaches, hFound⟩
    induction hReaches with
    | itself n => rw [interruptedBelow_eq, hFound, Bool.true_or]
    | @child n c m hBody hChild hComment _ ih =>
      have hAmong : interruptedAmong n.children = true := by
        rw [interruptedAmong_eq, List.any_eq_true]
        exact ⟨c, hChild, by rw [hComment, ih hFound]; rfl⟩
      rw [interruptedBelow_eq, hBody, hAmong]
      exact Bool.or_true _

end SwiftDerive.Grammar.Node

namespace SwiftDerive.Reading

set_option autoImplicit false

open Grammar Grammar.Node

/-! ## Neighbours -/

theorem functionName?_eq (src : Source) (ns : List Node) :
    functionName? src ns = (behind? "func" ns).map fun name => Text.trim (src.text name) := by
  induction ns with
  | nil => rfl
  | cons n ns ih =>
    cases ns with
    | nil => simp [functionName?, behind?]
    | cons next rest =>
      rw [functionName?, behind?, ih]
      by_cases hFunc : (n.kind == "func") = true
      · rw [if_pos hFunc, if_pos hFunc]
        rfl
      · rw [if_neg hFunc, if_neg hFunc]

theorem optionalMark?_eq (ns : List Node) :
    optionalMark? ns =
      (behind? "init" ns).bind fun mark => if mark.isOf ["?", "!"] then some mark.kind else none := by
  induction ns with
  | nil => rfl
  | cons n ns ih =>
    cases ns with
    | nil => simp [optionalMark?, behind?]
    | cons next rest =>
      rw [optionalMark?, behind?, ih]
      by_cases hInit : (n.kind == "init") = true
      · rw [if_pos hInit, if_pos hInit]
        rfl
      · rw [if_neg hInit, if_neg hInit]

theorem Thinning.behind?_map {g : Node → Node} {keep : Node → Bool} (h : Thinning g keep)
    (kind : String) (ns : List Node) : behind? kind (ns.map g) = (behind? kind ns).map g := by
  induction ns with
  | nil => rfl
  | cons n ns ih =>
    rw [List.map_cons, behind?, behind?, h.kind, ih, List.head?_map, apply_ite (Option.map g)]

/-- A comment that stands elsewhere does not change what stands behind the first child of a kind. -/
theorem behind?_uncommented {kind : String} (hComment : kind ≠ "comment")
    (hMultiline : kind ≠ "multiline_comment") {ns : List Node}
    (hBehind : (behind? kind ns).any isComment = false) :
    behind? kind (uncommented ns) = behind? kind ns := by
  induction ns with
  | nil => rfl
  | cons n ns ih =>
    by_cases hKind : (n.kind == kind) = true
    · have hNode := isComment_of_kind (beq_iff_eq.mp hKind) hComment hMultiline
      rw [behind?, if_pos hKind] at hBehind
      rw [uncommented_cons hNode, behind?, behind?, if_pos hKind, if_pos hKind]
      cases ns with
      | nil => rfl
      | cons next rest => rw [uncommented_cons hBehind, List.head?_cons, List.head?_cons]
    · rw [behind?, if_neg hKind] at hBehind
      rw [behind?, if_neg hKind, ← ih hBehind]
      cases hNode : n.isComment with
      | true => simp [uncommented, hNode]
      | false => rw [uncommented_cons hNode, behind?, if_neg hKind]

theorem getLast?_uncommented {ns : List Node} (hLast : ns.getLast?.any isComment = false) :
    (uncommented ns).getLast? = ns.getLast? := by
  cases hFound : ns.getLast? with
  | none =>
    rw [List.getLast?_eq_none_iff.mp hFound]
    rfl
  | some last =>
    obtain ⟨before, rfl⟩ := List.getLast?_eq_some_iff.mp hFound
    rw [hFound] at hLast
    have hEnd : uncommented [last] = [last] := uncommented_cons hLast []
    rw [uncommented, List.filter_append, ← uncommented, ← uncommented, hEnd, List.getLast?_concat]

/-! ## Nodes that no comment interrupts -/

theorem functionName?_withoutComments {n : Node} (src : Source)
    (hKind : n.isOf ["function_declaration", "protocol_function_declaration"] = true)
    (hNone : n.nameInterrupted = false) :
    functionName? src n.withoutComments.children = functionName? src n.children := by
  have hBehind : (behind? "func" n.children).any isComment = false := by
    rwa [nameInterrupted, hKind, Bool.true_and] at hNone
  rw [functionName?_eq, functionName?_eq, withoutComments_children,
    thinning_withoutComments.behind?_map, behind?_uncommented (by decide) (by decide) hBehind,
    Option.map_map]
  simp only [Function.comp_def, thinning_withoutComments.text]

theorem optionalMark?_withoutComments_iff {n : Node} (hKind : n.kind = "init_declaration") :
    optionalMark? n.withoutComments.children = optionalMark? n.children ↔
      n.markInterrupted = false := by
  have hImage : optionalMark? n.withoutComments.children = optionalMark? (uncommented n.children) := by
    rw [optionalMark?_eq, optionalMark?_eq, withoutComments_children,
      thinning_withoutComments.behind?_map, Option.bind_map]
    simp only [Function.comp_def, thinning_withoutComments.isOf, thinning_withoutComments.kind]
  rw [hImage, markInterrupted, hKind, beq_self_eq_true, Bool.true_and]
  cases hBehind : (behind? "init" n.children).any isComment with
  | true =>
    obtain ⟨mark, hMark, hComment⟩ := (Option.any_eq_true _ _).mp hBehind
    have hUnmarked : optionalMark? n.children = none := by
      rw [optionalMark?_eq, hMark, Option.bind_some, isOf_of_isComment hComment (by decide),
        if_neg Bool.false_ne_true]
    rw [hUnmarked, Bool.true_and, Option.isSome_eq_false_iff, Option.isNone_iff_eq_none]
  | false =>
    rw [optionalMark?_eq, optionalMark?_eq, behind?_uncommented (by decide) (by decide) hBehind,
      Bool.false_and]
    exact iff_of_true rfl rfl

theorem ending_withoutComments_iff {n : Node} (hKind : n.kind = "metatype") :
    n.withoutComments.children.getLast?.any (·.kind == "Protocol") =
      n.children.getLast?.any (·.kind == "Protocol") ↔ n.endInterrupted = false := by
  have hImage : n.withoutComments.children.getLast?.any (·.kind == "Protocol") =
      (uncommented n.children).getLast?.any (·.kind == "Protocol") := by
    rw [withoutComments_children, List.getLast?_map, Option.any_map]
    simp only [thinning_withoutComments.kind]
  rw [hImage, endInterrupted, hKind, beq_self_eq_true, Bool.true_and]
  cases hLast : n.children.getLast?.any isComment with
  | true =>
    obtain ⟨last, hFound, hComment⟩ := (Option.any_eq_true _ _).mp hLast
    rw [hFound, Option.any_some, kind_of_isComment hComment (by decide) (by decide), Bool.true_and]
  | false =>
    rw [getLast?_uncommented hLast, Bool.false_and]
    exact iff_of_true rfl rfl

theorem undisturbed_withoutComments {n : Node} (hNone : n.interrupted = false) :
    Undisturbed withoutComments n := by
  rw [interrupted, Bool.or_eq_false_iff, Bool.or_eq_false_iff] at hNone
  obtain ⟨⟨hName, hMark⟩, hEnd⟩ := hNone
  constructor
  · exact fun hKind src => functionName?_withoutComments src hKind hName
  · exact fun hKind => (optionalMark?_withoutComments_iff hKind).mpr hMark
  · exact fun hKind => (ending_withoutComments_iff hKind).mpr hEnd

theorem clear_withoutComments {n : Node} (hNone : n.interruptedBelow = false) :
    Clear withoutComments n := by
  intro m hReaches
  refine undisturbed_withoutComments ?_
  rw [← Bool.not_eq_true] at hNone ⊢
  exact fun hFound => hNone ((interruptedBelow_iff n).mpr ⟨m, hReaches, hFound⟩)

/-- A source file is read the same without its comments, if none interrupts what the reader looks
at. -/
theorem parseSourceFile_withoutComments (text : String) (tree : Node)
    (hTree : tree.hasError = false) (hNone : tree.parts.any interruptedBelow = false) :
    parseSourceFile text tree.withoutComments = parseSourceFile text tree := by
  have hRoot : tree.withoutComments.hasError = false := by
    cases tree
    rwa [withoutComments]
  have hParts : tree.withoutComments.parts = tree.parts.map withoutComments := by
    rw [Node.parts, withoutComments_children]
    exact thinning_withoutComments.filter_isPart_thin
  rw [List.any_eq_false] at hNone
  refine thinning_withoutComments.parseSourceFile text hTree hRoot hParts fun n hMem => ?_
  exact clear_withoutComments (Bool.not_eq_true _ ▸ hNone n hMem)

def token (kind : String) (named : Bool) (start stop : Nat) : Node :=
  ⟨kind, named, false, false, false, start, stop, []⟩

def functionTree (stop : Nat) (children : List Node) : Node :=
  ⟨"source_file", true, false, false, false, 0, stop,
    [⟨"function_declaration", true, false, false, false, 0, stop, children⟩]⟩

def commentedClause : Node :=
  functionTree 20
    [token "func" false 0 4, token "simple_identifier" true 5 8, token "(" false 8 9,
     token "multiline_comment" true 9 16, token ")" false 16 17, token "function_body" true 18 20]

theorem parseSourceFile_commentedClause :
    commentedClause.hasError = false ∧ commentedClause.parts.any interruptedBelow = false ∧
      parseSourceFile "func run(/* c */) \x7b\x7d" commentedClause.withoutComments =
        parseSourceFile "func run(/* c */) \x7b\x7d" commentedClause :=
  ⟨by decide, by decide, parseSourceFile_withoutComments _ commentedClause (by decide) (by decide)⟩

def commentedName : Node :=
  functionTree 21
    [token "func" false 0 4, token "multiline_comment" true 5 12,
     token "simple_identifier" true 13 16, token "(" false 16 17, token ")" false 17 18,
     token "function_body" true 19 21]

theorem commentedName_names_comment :
    commentedName.hasError = false ∧
      (∃ f, parseSourceFile "func /* c */ run() \x7b\x7d" commentedName = .ok ⟨[.function f]⟩ ∧
        f.name = "/* c */") ∧
      (∃ f, parseSourceFile "func /* c */ run() \x7b\x7d" commentedName.withoutComments =
        .ok ⟨[.function f]⟩ ∧ f.name = "run") :=
  ⟨rfl, ⟨_, rfl, rfl⟩, ⟨_, rfl, rfl⟩⟩

end SwiftDerive.Reading
