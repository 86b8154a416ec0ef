import SwiftDerive.Mock.Dependency
import SwiftDerive.Proofs.Reading.Comments

/-! # Exclamation marks behind types

An exclamation mark in a row of nodes makes the type before it an implicitly unwrapped optional, with
the specifiers that the type already has. A type behind specifiers is therefore read as an optional
that holds the specifiers, wherever such a row stands.
-/

namespace SwiftDerive.Reading

set_option autoImplicit false

open Grammar

/-- A row of nodes with one type: specifiers stand before it and an exclamation mark behind, with
nothing but comments between. -/
structure MarkedRow where
  front : List Node
  specifiers : List Node
  type : Node
  gap : List Node
  mark : Node
  rest : List Node
  front_other : ∀ c ∈ front, c.isOf typeKinds = false ∧ c.isOf specifierKinds = false
  specifiers_held : ∀ c ∈ specifiers, c.isOf specifierKinds = true ∨ c.isComment = true
  type_kind : type.isOf typeKinds = true
  gap_comments : ∀ c ∈ gap, c.isComment = true
  mark_kind : mark.kind = "!"
  mark_unnamed : mark.named = false
  rest_other : ∀ c ∈ rest,
    c.isOf typeKinds = false ∧ c.isOf specifierKinds = false ∧ c.kind ≠ "!"

namespace MarkedRow

variable (r : MarkedRow)

def nodes : List Node :=
  r.front ++ (r.specifiers ++ r.type :: (r.gap ++ r.mark :: r.rest))

def words (src : Source) : List String :=
  (r.specifiers.filter (·.isOf specifierKinds)).flatMap (specifiersOf src)

end MarkedRow

section

variable (src : Source)

/-! ## One node more of a row of types -/

def typeStep (run : TypeRun) (n : Node) : Except ParseError TypeRun :=
  TypeRun.step src run ⟨n, readNode src n⟩

theorem typesIn_eq_foldlM (ns : List Node) :
    typesIn src ns = (ns.foldlM (typeStep src) ⟨[], []⟩).map TypeRun.types := by
  rw [typesIn, typesAmong, foldlM_readNodes]
  rfl

theorem specifiersOf_ne_nil (n : Node) : specifiersOf src n ≠ [] := by
  rw [specifiersOf]
  generalize (if n.kind == "parameter_modifier" then [] else n.parts) = items
  cases items with
  | nil => exact List.cons_ne_nil _ _
  | cons item items => exact List.cons_ne_nil _ _

theorem typeStep_specifier (run : TypeRun) {n : Node} (hKind : n.isOf specifierKinds = true) :
    typeStep src run n =
      .ok { run with specifiers := run.specifiers ++ specifiersOf src n } := by
  rw [typeStep, TypeRun.step, if_pos hKind]

theorem typeStep_type (run : TypeRun) {n : Node} {t : TypeRef} (hKind : n.isOf typeKinds = true)
    (hType : typeAt src n = .ok t) :
    typeStep src run n =
      .ok ⟨run.types ++ [t.attributedWith run.specifiers], []⟩ := by
  have hSpecifier : n.isOf specifierKinds = false := Node.isOf_eq_false hKind (by decide)
  rw [typeAt] at hType
  rw [typeStep, TypeRun.step, hSpecifier, if_neg Bool.false_ne_true, if_pos hKind, hType]

theorem typeStep_mark {run : TypeRun} {n : Node} (hTypes : run.types ≠ []) (hKind : n.kind = "!")
    (hNamed : n.named = false) :
    typeStep src run n =
      .ok { run with types := modifyLast (TypeRef.optional · true) run.types } := by
  have hSpecifier : n.isOf specifierKinds = false :=
    Node.isOf_eq_false (Node.isOf_of_kind hKind (List.mem_singleton.mpr rfl)) (by decide)
  have hType : n.isOf typeKinds = false :=
    Node.isOf_eq_false (Node.isOf_of_kind hKind (List.mem_singleton.mpr rfl)) (by decide)
  have hSome : run.types.isEmpty = false := List.isEmpty_eq_false_iff.mpr hTypes
  rw [typeStep, TypeRun.step, hSpecifier, if_neg Bool.false_ne_true, hType,
    if_neg Bool.false_ne_true, hKind, hNamed, hSome]
  rfl

theorem typeStep_other {run : TypeRun} {n : Node} (hWaiting : run.specifiers = [])
    (hType : n.isOf typeKinds = false) (hSpecifier : n.isOf specifierKinds = false)
    (hMark : n.kind ≠ "!" ∨ run.types = []) :
    typeStep src run n = .ok run := by
  have hNoMark : (n.kind == "!" && !n.named && !run.types.isEmpty) = false := by
    rcases hMark with hKind | hEmpty
    · rw [beq_eq_false_iff_ne.mpr hKind, Bool.false_and, Bool.false_and]
    · rw [hEmpty]
      exact Bool.and_false _
  rw [typeStep, TypeRun.step, hSpecifier, if_neg Bool.false_ne_true, hType,
    if_neg Bool.false_ne_true, hNoMark, if_neg Bool.false_ne_true]
  obtain ⟨types, specifiers⟩ := run
  obtain rfl : specifiers = [] := hWaiting
  split
  · rfl
  · rfl

/-! ## The row as a whole -/

theorem foldlM_specifiers {ns : List Node}
    (hHeld : ∀ c ∈ ns, c.isOf specifierKinds = true ∨ c.isComment = true) (run : TypeRun) :
    ns.foldlM (typeStep src) run =
      .ok { run with
        specifiers := run.specifiers ++
          (ns.filter (·.isOf specifierKinds)).flatMap (specifiersOf src) } := by
  induction ns generalizing run with
  | nil => simp [pure, Except.pure]
  | cons c ns ih =>
    obtain ⟨hHead, hTail⟩ := List.forall_mem_cons.mp hHeld
    by_cases hKind : c.isOf specifierKinds = true
    · rw [foldlM_cons_of_ok (typeStep_specifier src run hKind), ih hTail,
        List.filter_cons_of_pos hKind, List.flatMap_cons, List.append_assoc]
    · have hComment : typeStep src run c = .ok run :=
        step_of_isComment src (hHead.resolve_left hKind) run
      rw [foldlM_cons_of_ok hComment, ih hTail, List.filter_cons_of_neg hKind]

/-- The mark of a row binds the specifiers before the type as well. -/
theorem typesIn_markedRow (r : MarkedRow) {t : TypeRef} (hType : typeAt src r.type = .ok t) :
    typesIn src r.nodes = .ok [.optional (t.attributedWith (r.words src)) true] := by
  have hFront : r.front.foldlM (typeStep src) ⟨[], []⟩ = .ok ⟨[], []⟩ :=
    foldlM_eq_ok_self fun c hMem =>
      typeStep_other src rfl (r.front_other c hMem).left (r.front_other c hMem).right (.inr rfl)
  have hGap (run : TypeRun) : r.gap.foldlM (typeStep src) run = .ok run :=
    foldlM_eq_ok_self fun c hMem => step_of_isComment src (r.gap_comments c hMem) run
  have hRest (types : List TypeRef) : r.rest.foldlM (typeStep src) ⟨types, []⟩ = .ok ⟨types, []⟩ := by
    refine foldlM_eq_ok_self fun c hMem => ?_
    obtain ⟨hKind, hSpecifier, hMark⟩ := r.rest_other c hMem
    exact typeStep_other src rfl hKind hSpecifier (.inl hMark)
  rw [typesIn_eq_foldlM, MarkedRow.nodes, foldlM_append_of_ok hFront,
    foldlM_append_of_ok (foldlM_specifiers src r.specifiers_held _),
    foldlM_cons_of_ok (typeStep_type src _ r.type_kind hType), foldlM_append_of_ok (hGap _),
    foldlM_cons_of_ok (typeStep_mark src (List.cons_ne_nil _ _) r.mark_kind r.mark_unnamed)]
  exact congrArg (Except.map TypeRun.types) (hRest _)

/-! ## Where such a row may stand -/

theorem type_parameterOf {r : MarkedRow} {t : TypeRef} (hType : typeAt src r.type = .ok t) {n : Node}
    (hRow : n.children = r.nodes) (hNamed : n.children.any (·.isOf nameKinds) = true)
    (attributes : List Attribute) :
    ∃ p, parameterOf src n attributes = .ok p ∧
      p.type = .optional (t.attributedWith (r.words src)) true := by
  have hNames : (n.children.filter (·.isOf nameKinds)).map src.text ≠ [] := by
    obtain ⟨c, hMem, hKind⟩ := List.any_eq_true.mp hNamed
    rw [ne_eq, List.map_eq_nil_iff]
    exact List.ne_nil_of_mem (List.mem_filter.mpr ⟨hMem, hKind⟩)
  obtain ⟨first, rest, hFirst⟩ := List.exists_cons_of_ne_nil hNames
  rw [parameterOf, hFirst, hRow, typesIn_markedRow src r hType]
  exact ⟨_, rfl, rfl⟩

theorem type_element {r : MarkedRow} {t : TypeRef} (hType : typeAt src r.type = .ok t) {n : Node}
    (hRow : n.children = r.nodes) :
    ∃ e, (readNode src n).element = .ok e ∧
      e.type = .optional (t.attributedWith (r.words src)) true := by
  have hTypes := typesIn_markedRow src r hType
  rw [typesIn, ← hRow] at hTypes
  rw [readNode_eq, readingOf]
  dsimp only
  rw [hTypes, elementOf]
  exact ⟨_, rfl, rfl⟩

theorem annotationOf_markedRow {r : MarkedRow} {t : TypeRef} (hType : typeAt src r.type = .ok t)
    {n : Node} (hRow : n.children = r.nodes) :
    annotationOf src n = .ok (.optional (t.attributedWith (r.words src)) true) := by
  rw [annotationOf, hRow, typesIn_markedRow src r hType]
  rfl

/-! ## Associated values -/

def isTypePart (n : Node) : Bool :=
  n.isOf typeKinds || n.isOf specifierKinds

theorem isTypePart_of_isComment {n : Node} (hComment : n.isComment = true) :
    isTypePart n = false ∧ n.kind ≠ "!" := by
  constructor
  · rw [isTypePart, Node.isOf_of_isComment hComment (by decide),
      Node.isOf_of_isComment hComment (by decide), Bool.or_false]
  · exact beq_eq_false_iff_ne.mp (Node.kind_of_isComment hComment (by decide) (by decide))

theorem isTypePart_of_isOf {n : Node} (hType : n.isOf typeKinds = false)
    (hSpecifier : n.isOf specifierKinds = false) : isTypePart n = false := by
  rw [isTypePart, hType, hSpecifier, Bool.or_false]

theorem caseStep_typePart (run : CaseParameterRun) {n : Node} (hPart : isTypePart n = true) :
    (CaseParameterRun.step src run n).types = run.types ++ [n] := by
  have hName : n.isOf nameKinds = false := by
    rcases (Bool.or_eq_true _ _).mp hPart with hKind | hKind
    · exact Node.isOf_eq_false hKind (by decide)
    · exact Node.isOf_eq_false hKind (by decide)
  rw [isTypePart] at hPart
  rw [CaseParameterRun.step, hName, Bool.and_false, if_neg Bool.false_ne_true, if_pos hPart]

theorem caseStep_mark {run : CaseParameterRun} (hTypes : run.types ≠ []) {n : Node}
    (hKind : n.kind = "!") : (CaseParameterRun.step src run n).types = run.types ++ [n] := by
  have hSome : run.types.isEmpty = false := List.isEmpty_eq_false_iff.mpr hTypes
  rw [CaseParameterRun.step, hSome, Bool.false_and, if_neg Bool.false_ne_true,
    if_neg Bool.false_ne_true, if_pos (beq_iff_eq.mpr hKind)]
  split
  · rfl
  · rfl

theorem caseStep_other {run : CaseParameterRun} {n : Node} (hPart : isTypePart n = false)
    (hMark : n.kind ≠ "!" ∨ run.types = []) :
    (CaseParameterRun.step src run n).types = run.types := by
  rw [isTypePart] at hPart
  rw [CaseParameterRun.step, hPart, if_neg Bool.false_ne_true]
  split
  · rfl
  · split
    · rfl
    · next hSome =>
      have hKind : n.kind ≠ "!" := hMark.resolve_right fun hEmpty => hSome (by rw [hEmpty]; rfl)
      rw [if_neg (by rwa [beq_iff_eq])]
      split
      · rfl
      · rfl

theorem types_caseRun_other {ns : List Node} {run : CaseParameterRun}
    (hOther : ∀ c ∈ ns, isTypePart c = false ∧ (c.kind ≠ "!" ∨ run.types = [])) :
    (ns.foldl (CaseParameterRun.step src) run).types = run.types := by
  induction ns generalizing run with
  | nil => rfl
  | cons c ns ih =>
    obtain ⟨⟨hPart, hMark⟩, hTail⟩ := List.forall_mem_cons.mp hOther
    have hStep := caseStep_other src hPart hMark
    rw [List.foldl_cons, ih (by rwa [hStep]), hStep]

theorem types_caseRun_specifiers {ns : List Node} (run : CaseParameterRun)
    (hHeld : ∀ c ∈ ns, c.isOf specifierKinds = true ∨ c.isComment = true) :
    (ns.foldl (CaseParameterRun.step src) run).types =
      run.types ++ ns.filter (·.isOf specifierKinds) := by
  induction ns generalizing run with
  | nil => exact (List.append_nil _).symm
  | cons c ns ih =>
    obtain ⟨hHead, hTail⟩ := List.forall_mem_cons.mp hHeld
    by_cases hKind : c.isOf specifierKinds = true
    · have hPart : isTypePart c = true := by rw [isTypePart, hKind, Bool.or_true]
      rw [List.foldl_cons, ih _ hTail, caseStep_typePart src run hPart,
        List.filter_cons_of_pos hKind, List.append_assoc, List.singleton_append]
    · obtain ⟨hPart, hMark⟩ := isTypePart_of_isComment (hHead.resolve_left hKind)
      rw [List.foldl_cons, ih _ hTail, caseStep_other src hPart (.inl hMark),
        List.filter_cons_of_neg hKind]

/-- What an associated value keeps of a row: the specifiers, the type and the mark. -/
def MarkedRow.core (r : MarkedRow) : MarkedRow :=
  { r with
    front := []
    specifiers := r.specifiers.filter (·.isOf specifierKinds)
    gap := []
    rest := []
    front_other := nofun
    specifiers_held := fun _ hMem => .inl (List.mem_filter.mp hMem).right
    gap_comments := nofun
    rest_other := nofun }

theorem types_caseRun (r : MarkedRow) :
    (r.nodes.foldl (CaseParameterRun.step src) ⟨[], [], none⟩).types = r.core.nodes := by
  -- Names and values around the type change other fields of the run, so only its types are followed.
  have hFront : ∀ c ∈ r.front, isTypePart c = false ∧
      (c.kind ≠ "!" ∨ (⟨[], [], none⟩ : CaseParameterRun).types = []) := fun c hMem =>
    ⟨isTypePart_of_isOf (r.front_other c hMem).left (r.front_other c hMem).right, .inr rfl⟩
  have hType : isTypePart r.type = true := by
    rw [isTypePart, r.type_kind, Bool.true_or]
  have hGap (run : CaseParameterRun) :
      (r.gap.foldl (CaseParameterRun.step src) run).types = run.types := by
    refine types_caseRun_other src fun c hMem => ?_
    obtain ⟨hPart, hMark⟩ := isTypePart_of_isComment (r.gap_comments c hMem)
    exact ⟨hPart, .inl hMark⟩
  have hRest (run : CaseParameterRun) :
      (r.rest.foldl (CaseParameterRun.step src) run).types = run.types := by
    refine types_caseRun_other src fun c hMem => ?_
    obtain ⟨hKind, hSpecifier, hMark⟩ := r.rest_other c hMem
    exact ⟨isTypePart_of_isOf hKind hSpecifier, .inl hMark⟩
  have hSome (run : CaseParameterRun) :
      (r.gap.foldl (CaseParameterRun.step src)
        (CaseParameterRun.step src run r.type)).types ≠ [] := by
    rw [hGap, caseStep_typePart src run hType]
    exact List.append_ne_nil_of_right_ne_nil _ (List.cons_ne_nil _ _)
  rw [MarkedRow.nodes, List.foldl_append, List.foldl_append, List.foldl_cons, List.foldl_append,
    List.foldl_cons, hRest, caseStep_mark src (hSome _) r.mark_kind, hGap,
    caseStep_typePart src _ hType, types_caseRun_specifiers src _ r.specifiers_held,
    types_caseRun_other src hFront, List.nil_append, List.append_assoc]
  rfl

theorem type_caseParameterOf {r : MarkedRow} {t : TypeRef} (hType : typeAt src r.type = .ok t)
    (first : Node) :
    ∃ p, caseParameterOf src first r.nodes = .ok p ∧
      p.type = .optional (t.attributedWith (r.words src)) true := by
  have hWords : r.core.words src = r.words src := by
    rw [MarkedRow.words, MarkedRow.core, List.filter_filter, MarkedRow.words]
    simp only [Bool.and_self]
  have hTypes := typesIn_markedRow src r.core hType
  rw [hWords] at hTypes
  rw [caseParameterOf, types_caseRun, hTypes]
  exact ⟨_, rfl, rfl⟩

end

/-! ## Parameters that are passed on -/

theorem attributedWith_of_ne_nil {words : List String} (hWords : words ≠ []) (t : TypeRef) :
    ∃ front base, t.attributedWith words = .attributed front base := by
  obtain ⟨word, rest, rfl⟩ := List.exists_cons_of_ne_nil hWords
  cases t <;> exact ⟨_, _, rfl⟩

theorem optional_attributedWith_iff (words : List String) (t : TypeRef) :
    TypeRef.optional (t.attributedWith words) true =
      (TypeRef.optional t true).attributedWith words ↔ words = [] := by
  constructor
  · intro hSame
    by_contra hWords
    obtain ⟨front, base, hAttributed⟩ := attributedWith_of_ne_nil hWords (.optional t true)
    rw [hAttributed] at hSame
    cases hSame
  · rintro rfl
    cases t <;> rfl

theorem words_eq_nil_iff (src : Source) (r : MarkedRow) :
    r.words src = [] ↔ ∀ c ∈ r.specifiers, c.isOf specifierKinds = false := by
  simp [MarkedRow.words, List.flatMap_eq_nil_iff, specifiersOf_ne_nil]

theorem argument_of_optional (slot : Mock.Slot) {f : FunctionDecl} {i : Nat} {p : Parameter}
    {t : TypeRef} (hParameter : f.parameters[i]? = some p) (hType : p.type = .optional t true) :
    (Mock.forwardingCall slot (Signature.ofFunction f)).arguments[i]? =
      some (false, Mock.forwardedName i ⟨p.label, p.internalName, p.type, p.variadic⟩) := by
  have hInout :
      SignatureParameter.isInout ⟨p.label, p.internalName, p.type, p.variadic⟩ = false := by
    rw [SignatureParameter.isInout, hType]
    rfl
  rw [Mock.forwardingCall, Mock.mapIndexed, Signature.ofFunction, List.getElem?_map,
    List.getElem?_zipIdx, List.getElem?_map, hParameter]
  simp only [Option.map_some, hInout, Nat.zero_add]

/-- A type behind specifiers with an exclamation mark is read as an optional that holds the
specifiers, as a parameter, a place of a tuple, an associated value and an annotation alike. The
specifiers stand before the optional exactly if there are none; a parameter of such a type is not
passed on in place. -/
theorem mark_binds_last {src : Source} (r : MarkedRow) {t : TypeRef}
    (hType : typeAt src r.type = .ok t) :
    typesIn src r.nodes = .ok [.optional (t.attributedWith (r.words src)) true] ∧
    (∀ n attributes, n.children = r.nodes → n.children.any (·.isOf nameKinds) = true →
      ∃ p, parameterOf src n attributes = .ok p ∧
        p.type = .optional (t.attributedWith (r.words src)) true) ∧
    (∀ n, n.children = r.nodes →
      ∃ e, (readNode src n).element = .ok e ∧
        e.type = .optional (t.attributedWith (r.words src)) true) ∧
    (∀ first, ∃ p, caseParameterOf src first r.nodes = .ok p ∧
      p.type = .optional (t.attributedWith (r.words src)) true) ∧
    (∀ n, n.children = r.nodes →
      annotationOf src n = .ok (.optional (t.attributedWith (r.words src)) true)) ∧
    (TypeRef.optional (t.attributedWith (r.words src)) true =
        (TypeRef.optional t true).attributedWith (r.words src) ↔
      ∀ c ∈ r.specifiers, c.isOf specifierKinds = false) ∧
    (∀ (slot : Mock.Slot) (f : FunctionDecl) (i : Nat) (p : Parameter),
      f.parameters[i]? = some p → p.type = .optional (t.attributedWith (r.words src)) true →
        (Mock.forwardingCall slot (Signature.ofFunction f)).arguments[i]? =
          some (false, Mock.forwardedName i ⟨p.label, p.internalName, p.type, p.variadic⟩)) := by
  refine ⟨typesIn_markedRow src r hType, ?_, ?_, ?_, ?_, ?_, ?_⟩
  · exact fun n attributes hRow hNamed => type_parameterOf src hType hRow hNamed attributes
  · exact fun n hRow => type_element src hType hRow
  · exact fun first => type_caseParameterOf src hType first
  · exact fun n hRow => annotationOf_markedRow src hType hRow
  · exact (optional_attributedWith_iff _ t).trans (words_eq_nil_iff src r)
  · exact fun slot f i p hParameter hOptional => argument_of_optional slot hParameter hOptional

def inoutRow : MarkedRow where
  front := [token "simple_identifier" true 7 8, token ":" false 8 9]
  specifiers :=
    [⟨"parameter_modifiers", true, false, false, false, 10, 15,
      [⟨"parameter_modifier", true, false, false, false, 10, 15, [token "inout" false 10 15]⟩]⟩]
  type := ⟨"user_type", true, false, false, false, 16, 17, [token "type_identifier" true 16 17]⟩
  gap := []
  mark := token "!" false 17 18
  rest := []
  front_other := by decide
  specifiers_held := by decide
  type_kind := by decide
  gap_comments := nofun
  mark_kind := rfl
  mark_unnamed := rfl
  rest_other := nofun

def inoutParameter : Node :=
  ⟨"parameter", true, false, false, false, 7, 18, inoutRow.nodes⟩

def inoutFunction : Node :=
  functionTree 22
    [token "func" false 0 4, token "simple_identifier" true 5 6, token "(" false 6 7, inoutParameter,
     token ")" false 18 19, token "function_body" true 20 22]

theorem mark_binds_last_inout :
    typeAt ⟨"func f(x: inout A!) \x7b\x7d".toList, 0⟩ inoutRow.type = .ok (.named "A" []) ∧
      ∃ p, parameterOf ⟨"func f(x: inout A!) \x7b\x7d".toList, 0⟩ inoutParameter [] = .ok p ∧
        p.type = .optional (.attributed ["inout"] (.named "A" [])) true := by
  obtain ⟨-, hParameter, -⟩ :=
    @mark_binds_last ⟨"func f(x: inout A!) \x7b\x7d".toList, 0⟩ inoutRow (.named "A" []) rfl
  exact ⟨rfl, hParameter inoutParameter [] rfl rfl⟩

theorem mark_binds_inout :
    (¬ ∀ (src : Source) (r : MarkedRow) (t : TypeRef), typeAt src r.type = .ok t →
      typesIn src r.nodes = .ok [(TypeRef.optional t true).attributedWith (r.words src)]) ∧
    ∃ f, parseDeclaration "func f(x: inout A!) \x7b\x7d" [inoutFunction] = .ok (.function f) ∧
      (Signature.ofFunction f).parameters.map SignatureParameter.isInout = [false] := by
  constructor
  · intro hClaim
    have hAlone := hClaim ⟨"func f(x: inout A!) \x7b\x7d".toList, 0⟩ inoutRow (.named "A" []) rfl
    have hRead : typesIn ⟨"func f(x: inout A!) \x7b\x7d".toList, 0⟩ inoutRow.nodes =
        .ok [.optional (.attributed ["inout"] (.named "A" [])) true] := rfl
    rw [hRead] at hAlone
    cases hAlone
  · exact ⟨_, rfl, rfl⟩

end SwiftDerive.Reading
