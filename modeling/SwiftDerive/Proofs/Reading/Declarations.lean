import SwiftDerive.Proofs.Reading.Parts
import SwiftDerive.Reading.Entry

/-! # Declarations in thinned trees

A declaration, and so a whole source file, is read the same in a thinned tree.
-/

namespace SwiftDerive.Reading

set_option autoImplicit false

open Grammar

structure SameDecl (src : Source) (n m : Node) : Prop where
  decl : (readDecl src m).decl = (readDecl src n).decl
  members : n.isBody = false → (readDecl src m).members = (readDecl src n).members

theorem foldlM_readDecls {σ : Type} (src : Source) (step : σ → ReadDecl → Except ParseError σ) (s : σ)
    (ns : List Node) : (readDecls src ns).foldlM step s =
      ns.foldlM (fun s n => step s ⟨n, readDecl src n⟩) s := by
  rw [readDecls_eq_map, List.foldlM_map]

theorem headerStep_of_isComment (src : Source) {n : Node} (hComment : n.isComment = true)
    (run : HeaderRun) : HeaderRun.step src run ⟨n, readDecl src n⟩ = .ok run := by
  have hKeyword : TypeKind.ofKeyword? n.kind = none := by
    rw [Node.isComment, Bool.or_eq_true, beq_iff_eq, beq_iff_eq] at hComment
    rcases hComment with hKind | hKind
    · rw [hKind]; rfl
    · rw [hKind]; rfl
  cases hNamed : n.named with
  | true => simp [HeaderRun.step, hNamed, hComment]
  | false =>
    simp only [HeaderRun.step, hNamed, hKeyword]
    cases run with | mk kind => cases kind <;> rfl

theorem parseSourceFile_eq (text : String) {tree : Node} (hTree : tree.hasError = false) :
    parseSourceFile text tree =
      (tree.parts.mapM (declAt ⟨text.toList, 0⟩)).map SourceFile.mk := by
  have hChecked : checked ⟨text.toList, 0⟩ tree = .ok tree := by
    rw [checked, hTree, if_neg Bool.false_ne_true]
  rw [parseSourceFile, hChecked]
  simp only [bind, Except.bind]
  cases tree.parts.mapM (declAt ⟨text.toList, 0⟩) <;> rfl

namespace Thinning

variable {g : Node → Node} {keep : Node → Bool} (h : Thinning g keep) (src : Source)
include h

/-! ## Functions and initializers -/

section Members

variable {n : Node} (hBody : n.isBody = false) (hClear : Clear g n)
include hBody hClear

theorem typesIn_children : Reading.typesIn src (g n).children = Reading.typesIn src n.children := by
  rw [h.children n hBody]
  exact h.typesIn_clear src fun c => hClear.child hBody

omit hBody in
theorem functionOf?
    (hKind : n.isOf ["function_declaration", "protocol_function_declaration"] = true) :
    functionOf? src (g n) = Reading.functionOf? src n := by
  have hBody : n.isBody = false := Node.isBody_of_isOf hKind (by decide)
  rw [Reading.functionOf?, Reading.functionOf?, h.decorationsOf src (by decide) hBody,
    h.typesIn_children src hBody hClear, hClear.here.name hKind, h.parametersOf src hBody hClear,
    h.effectsOf src hBody hClear, h.genericParametersOf src hBody hClear,
    h.whereClauseOf src hBody hClear, h.bodyOf src hBody, h.position, h.error]

omit hBody in
theorem initializerOf (hKind : n.kind = "init_declaration") :
    initializerOf src (g n) = Reading.initializerOf src n := by
  have hBody : n.isBody = false := Node.isBody_of_kind hKind (by decide)
  rw [Reading.initializerOf, Reading.initializerOf, h.decorationsOf src (by decide) hBody,
    hClear.here.mark hKind, h.parametersOf src hBody hClear, h.effectsOf src hBody hClear,
    h.genericParametersOf src hBody hClear, h.whereClauseOf src hBody hClear, h.bodyOf src hBody,
    h.position]

/-! ## Properties -/

theorem annotationOf : annotationOf src (g n) = Reading.annotationOf src n := by
  simp only [Reading.annotationOf, h.firstType, h.typesIn_children src hBody hClear]

omit hBody in
theorem propertyStep (run : PropertyRun) :
    PropertyRun.step src run (g n) = PropertyRun.step src run n := by
  simp only [PropertyRun.step, h.kind, h.chars, h.collapsed, h.isPart, h.isOf, h.raw]
  refine ite_congr rfl (fun _ => rfl) fun _ => ite_congr rfl (fun _ => rfl) fun _ =>
    ite_congr rfl (fun _ => rfl) fun _ => ite_congr rfl (fun hKind => ?typed) fun _ =>
    ite_congr rfl (fun hKind => ?accessors) fun _ => rfl
  case typed =>
    rw [h.annotationOf src (Node.isBody_of_kind (beq_iff_eq.mp hKind) (by decide)) hClear]
  case accessors =>
    rw [h.accessorBlockOf src (Node.isBody_of_isOf hKind (by decide)) hClear]

theorem variableOf : variableOf src (g n) = Reading.variableOf src n := by
  have hRun : (g n).children.foldlM (PropertyRun.step src) ⟨"var", []⟩ =
      n.children.foldlM (PropertyRun.step src) ⟨"var", []⟩ := by
    rw [h.children n hBody]
    refine h.foldlM_thin (fun c hMem hComment run => ?_) (fun c hComment run => ?_) _
    · exact h.propertyStep src (hClear.child hBody hMem hComment) run
    · have hKeyword : (c.kind == "value_binding_pattern") = false :=
        Node.kind_of_isComment hComment (by decide) (by decide)
      have hPattern : (c.kind == "pattern") = false :=
        Node.kind_of_isComment hComment (by decide) (by decide)
      simp only [PropertyRun.step, hKeyword, hPattern, Node.isPart_of_isComment hComment,
        Bool.not_false, Bool.or_true, Bool.false_eq_true, if_false, if_true]
      rfl
  rw [Reading.variableOf, Reading.variableOf, h.decorationsOf src (by decide) hBody, hRun,
    h.position, h.error]

/-! ## Cases of enums -/

omit hBody in
theorem elementStep (elements : List CaseElement) :
    elementStep src elements (g n) = Reading.elementStep src elements n := by
  simp only [Reading.elementStep, h.kind, h.text, h.position, h.isPart, h.raw]
  refine ite_congr rfl (fun _ => rfl) fun _ => ite_congr rfl (fun _ => rfl) fun _ =>
    ite_congr rfl (fun hKind => ?_) fun _ => rfl
  rw [h.caseParametersOf src (Node.isBody_of_kind (beq_iff_eq.mp hKind) (by decide)) hClear]

theorem caseOf : caseOf src (g n) = Reading.caseOf src n := by
  have hElements : (g n).children.foldlM (Reading.elementStep src) [] =
      n.children.foldlM (Reading.elementStep src) [] := by
    rw [h.children n hBody]
    refine h.foldlM_thin (fun c hMem hComment run => ?_) (fun c hComment elements => ?_) _
    · exact h.elementStep src (hClear.child hBody hMem hComment) run
    · have hName : (c.kind == "simple_identifier") = false :=
        Node.kind_of_isComment hComment (by decide) (by decide)
      simp only [Reading.elementStep, hName, Node.isPart_of_isComment hComment, Bool.not_false,
        Bool.or_true, Bool.false_eq_true, if_false, if_true]
      rfl
  rw [Reading.caseOf, Reading.caseOf, h.decorationsOf src (by decide) hBody, hElements, h.position]

/-! ## Types -/

theorem inheritedType (attributes : List String) :
    inheritedType src attributes (g n) = Reading.inheritedType src attributes n := by
  rw [Reading.inheritedType, Reading.inheritedType, h.parts hBody, h.error]
  cases hParts : n.parts with
  | nil => rfl
  | cons part rest =>
    have hPart : part ∈ n.parts := hParts ▸ List.mem_cons_self
    exact congrArg (Except.map _) (h.typeAt src (hClear.part hBody hPart))

omit hBody in
theorem headerStep (hSame : SameDecl src n (g n)) (run : HeaderRun) :
    HeaderRun.step src run ⟨g n, readDecl src (g n)⟩ = HeaderRun.step src run ⟨n, readDecl src n⟩ := by
  simp only [HeaderRun.step, h.named, h.kind, h.isComment, h.isOf, h.text, h.collapsed,
    h.typeAt src hClear]
  refine ite_congr rfl (fun _ => rfl) fun _ => ite_congr rfl (fun _ => rfl) fun _ =>
    ite_congr rfl (fun _ => rfl) fun _ => ite_congr rfl (fun hKind => ?parameters) fun _ =>
    ite_congr rfl (fun _ => rfl) fun _ => ite_congr rfl (fun hKind => ?inherited) fun _ =>
    ite_congr rfl (fun hKind => ?constraints) fun _ => ite_congr rfl (fun hKind => ?members)
    fun _ => rfl
  case parameters =>
    rw [h.genericParametersIn src (Node.isBody_of_kind (beq_iff_eq.mp hKind) (by decide)) hClear]
  case inherited =>
    rw [h.inheritedType src (Node.isBody_of_kind (beq_iff_eq.mp hKind) (by decide)) hClear]
  case constraints =>
    rw [h.whereClauseIn src (Node.isBody_of_kind (beq_iff_eq.mp hKind) (by decide)) hClear]
  case members =>
    rw [hSame.members (Node.isBody_of_isOf hKind (by decide))]

theorem typeDeclOf (hSame : ∀ c ∈ n.children, c.isComment = false → SameDecl src c (g c)) :
    typeDeclOf src (g n) (readDecls src (g n).children) =
      Reading.typeDeclOf src n (readDecls src n.children) := by
  have hRun : (readDecls src (g n).children).foldlM (HeaderRun.step src)
      ⟨none, none, [], [], [], none, []⟩ =
        (readDecls src n.children).foldlM (HeaderRun.step src)
          ⟨none, none, [], [], [], none, []⟩ := by
    rw [h.children n hBody, foldlM_readDecls, foldlM_readDecls]
    refine h.foldlM_thin (fun c hMem hComment run => ?_) (fun c hComment run => ?_) _
    · exact h.headerStep src (hClear.child hBody hMem hComment) (hSame c hMem hComment) run
    · exact headerStep_of_isComment src hComment run
  rw [Reading.typeDeclOf, Reading.typeDeclOf, h.decorationsOf src (by decide) hBody, hRun,
    h.position, h.error]

omit hBody in
theorem declOf
    (hSame : n.isBody = false → ∀ c ∈ n.children, c.isComment = false → SameDecl src c (g c)) :
    declOf src (g n) (readDecls src (g n).children) =
      Reading.declOf src n (readDecls src n.children) := by
  rw [Reading.declOf, Reading.declOf, h.kind, h.raw, h.position]
  split
  case h_1 hKind =>
    have hBody : n.isBody = false := Node.isBody_of_kind hKind (by decide)
    exact h.typeDeclOf src hBody hClear (hSame hBody)
  case h_2 hKind =>
    have hBody : n.isBody = false := Node.isBody_of_kind hKind (by decide)
    exact h.typeDeclOf src hBody hClear (hSame hBody)
  case h_3 hKind =>
    rw [h.functionOf? src hClear (Node.isOf_of_kind hKind (by decide))]
  case h_4 hKind =>
    rw [h.functionOf? src hClear (Node.isOf_of_kind hKind (by decide))]
  case h_5 hKind =>
    rw [h.initializerOf src hClear hKind]
  case h_6 hKind =>
    rw [h.variableOf src (Node.isBody_of_kind hKind (by decide)) hClear]
  case h_7 hKind =>
    rw [h.variableOf src (Node.isBody_of_kind hKind (by decide)) hClear]
  case h_8 hKind =>
    rw [h.caseOf src (Node.isBody_of_kind hKind (by decide)) hClear]
  case h_9 => rfl

end Members

theorem members {n : Node} (hBody : n.isBody = false)
    (hSame : ∀ c ∈ n.children, c.isComment = false → SameDecl src c (g c)) :
    (readDecl src (g n)).members = (Reading.readDecl src n).members := by
  have hParts (ns : List Node) : (readDecls src ns).filter (·.node.isPart) =
      readDecls src (ns.filter Node.isPart) := by
    rw [readDecls_eq_map, readDecls_eq_map, List.filter_map]
    rfl
  rw [readDecl_eq, readDecl_eq, declReadingOf, declReadingOf]
  simp only [hParts, h.children n hBody, h.filter_isPart_thin]
  rw [readDecls_eq_map, readDecls_eq_map, List.map_map, List.mapM_map, List.mapM_map]
  refine mapM_congr fun c hFiltered => ?_
  obtain ⟨hMem, hPart⟩ := List.mem_filter.mp hFiltered
  exact (hSame c hMem (Node.isComment_of_isPart hPart)).decl

theorem readDecl {n : Node} (hClear : Clear g n) : SameDecl src n (g n) := by
  induction n using Node.children_induction with
  | step n ih =>
    have hSame : n.isBody = false → ∀ c ∈ n.children, c.isComment = false → SameDecl src c (g c) :=
      fun hBody c hMem hComment => ih c hMem (hClear.child hBody hMem hComment)
    constructor
    · rw [readDecl_eq, readDecl_eq]
      exact h.declOf src hClear hSame
    · exact fun hBody => h.members src hBody (hSame hBody)

/-! ## Source files -/

theorem parseSourceFile (text : String) {tree root : Node} (hTree : tree.hasError = false)
    (hRoot : root.hasError = false) (hParts : root.parts = tree.parts.map g)
    (hClear : ∀ n ∈ tree.parts, Clear g n) :
    parseSourceFile text root = Reading.parseSourceFile text tree := by
  rw [parseSourceFile_eq text hTree, parseSourceFile_eq text hRoot, hParts, List.mapM_map]
  refine congrArg (Except.map SourceFile.mk) (mapM_congr fun n hMem => ?_)
  exact (h.readDecl ⟨text.toList, 0⟩ (hClear n hMem)).decl

end Thinning

end SwiftDerive.Reading
