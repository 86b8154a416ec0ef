import SwiftDerive.Proofs.FreeNames
import SwiftDerive.Proofs.Reading.FormedTypes
import SwiftDerive.Proofs.Reading.Placeholder
import SwiftDerive.Proofs.Reading.Reported

/-! # The form of types in declarations

Every type in a declaration that was read is in form: those of parameters, results, effects, bindings,
associated values, generic clauses and inheritance clauses, in the declaration and in its members at any
depth.
-/

namespace SwiftDerive

set_option autoImplicit false

def CaseElement.types (e : CaseElement) : List TypeRef :=
  (e.parameters.getD []).map CaseParameter.type

def Decl.types : Decl → List TypeRef
  | .function f => f.types
  | .initializer i => i.types
  | .variable v => v.types
  | .enumCase c => c.types
  | .type header _ => header.types
  | .raw _ _ | .statement _ | .file _ => []

def Decl.FormedThroughout (d : Decl) : Prop :=
  ∀ path scope inner, d.Holds path scope inner → TypeRef.AllFormed inner.types

end SwiftDerive

namespace SwiftDerive.Reading

set_option autoImplicit false

open Grammar Grammar.Node TypeRef

def requirementTypes (whereClause : Option WhereClause) : List TypeRef :=
  ((whereClause.map WhereClause.requirements).getD []).flatMap fun r => [r.left, r.right]

structure HeaderRun.Formed (run : HeaderRun) : Prop where
  generics : AllFormed (run.genericParameters.filterMap GenericParameter.constraint)
  inheritance : AllFormed run.inheritance
  clause : AllFormed (requirementTypes run.whereClause)

section

variable (src : Source)

/-! ## Generic parameters and `where` clauses -/

theorem formed_genericParameterOf (n : Node) :
    Gives (fun p => AllFormed p.constraint.toList) (genericParameterOf src n) := by
  rw [genericParameterOf]
  dsimp only
  split
  · exact gives_error _
  · next name rest _ =>
    apply (formed_typesIn src rest).bind
    intro types hTypes t hConstraint
    exact hTypes t (List.mem_of_mem_head? (Option.mem_toList.mp hConstraint))

theorem formed_genericParametersIn (n : Node) :
    Gives (fun ps => AllFormed (ps.filterMap GenericParameter.constraint))
      (genericParametersIn src n) := by
  have hEach : Gives (fun ps => ∀ p ∈ ps, AllFormed p.constraint.toList)
      (genericParametersIn src n) :=
    Meets.mapM fun c _ => formed_genericParameterOf src c
  apply hEach.imp (fun _ _ => trivial)
  intro ps hFormed t hMem
  obtain ⟨p, hParameter, hConstraint⟩ := List.mem_filterMap.mp hMem
  exact hFormed p hParameter t (Option.mem_toList.mpr hConstraint)

theorem formed_genericParametersOf (n : Node) :
    Gives (fun ps => AllFormed (ps.filterMap GenericParameter.constraint))
      (genericParametersOf src n) := by
  rw [genericParametersOf]
  split
  · exact List.forall_mem_nil _
  · next list _ => exact formed_genericParametersIn src list

theorem formed_pathType (text : List Char) : (pathType text).Formed := by
  rw [pathType]
  split
  · exact formed_named _ (List.forall_mem_nil _)
  · next first rest _ =>
    apply List.foldlRecOn rest _ (formed_named first (List.forall_mem_nil _))
    intro base hBase name _
    exact formed_member hBase name (List.forall_mem_nil _)

theorem formed_constrainedStep {found : Option TypeRef} (hFound : AllFormed found.toList)
    (n : Node) : Gives (AllFormed ·.toList) (constrainedStep src found n) := by
  unfold constrainedStep
  split
  · exact List.forall_mem_singleton.mpr (formed_pathType _)
  · split
    · exact (formed_typeAt src n).map fun type hType => List.forall_mem_singleton.mpr hType
    · split
      · have hBase := List.forall_mem_singleton.mp hFound
        split
        · exact List.forall_mem_singleton.mpr (formed_member hBase _ (List.forall_mem_nil _))
        · exact hFound
      · exact List.forall_mem_nil _

theorem formed_requirementOf (n : Node) :
    Gives (fun r => AllFormed [r.left, r.right]) (requirementOf src n) := by
  rw [requirementOf]
  split
  · next bound first rest _ _ =>
    have hLeft : Gives (AllFormed ·.toList) ((first :: rest).foldlM (constrainedStep src) none) :=
      Meets.foldlM (fun c _ found hFound => formed_constrainedStep src hFound c)
        (List.forall_mem_nil _)
    apply hLeft.bind
    intro found hFound
    split
    · exact gives_error _
    · next left =>
      have hFormed := List.forall_mem_singleton.mp hFound
      exact (formed_typeAt src bound).bind fun right hRight =>
        List.forall_mem_cons.mpr ⟨hFormed, List.forall_mem_singleton.mpr hRight⟩
  · exact gives_error _

theorem formed_whereClauseIn (n : Node) :
    Gives (fun clause => AllFormed (requirementTypes (some clause))) (whereClauseIn src n) := by
  have hEach : Gives (fun rs => ∀ r ∈ rs, AllFormed [r.left, r.right])
      ((constraintsIn n).mapM (requirementOf src)) :=
    Meets.mapM fun c _ => formed_requirementOf src c
  exact hEach.bind fun rs hFormed => List.forall_mem_flatMap.mpr hFormed

theorem formed_whereClauseOf (n : Node) :
    Gives (fun clause => AllFormed (requirementTypes clause)) (whereClauseOf src n) := by
  rw [whereClauseOf]
  split
  · exact List.forall_mem_nil _
  · next list _ => exact (formed_whereClauseIn src list).map fun clause hClause => hClause

/-! ## Parameters and associated values -/

theorem formed_parameterOf (n : Node) (attributes : List Attribute) :
    Gives (fun p => p.type.Formed) (parameterOf src n attributes) := by
  apply (formed_typesIn src n.children).bind
  intro types hTypes
  split
  · exact hTypes _ List.mem_cons_self
  · exact gives_error _

theorem formed_parameterStep {run : ParameterRun} (hRun : ∀ p ∈ run.parameters, p.type.Formed)
    (n : Node) :
    Gives (fun run => ∀ p ∈ run.parameters, p.type.Formed) (ParameterRun.step src run n) := by
  rw [ParameterRun.step]
  split
  · exact hRun
  · split
    · cases hRead : parameterOf src n run.attributes with
      | ok p =>
        have hType := (formed_parameterOf src n run.attributes).of_eq_ok hRead
        exact List.forall_mem_append.mpr ⟨hRun, List.forall_mem_singleton.mpr hType⟩
      | error e => exact gives_error e
    · exact forall_mem_modifyLast hRun fun p hType => hType

theorem formed_parametersOf (n : Node) :
    Gives (fun ps => AllFormed (ps.map Parameter.type)) (parametersOf src n) := by
  have hRun : Gives (fun run => ∀ p ∈ run.parameters, p.type.Formed)
      ((clauseParts 0 n.children).foldlM (ParameterRun.step src) ⟨[], []⟩) :=
    Meets.foldlM (fun c _ run hBefore => formed_parameterStep src hBefore c) (List.forall_mem_nil _)
  exact hRun.map fun run hTypes => List.forall_mem_map.mpr hTypes

theorem formed_caseParameterOf (first : Node) (group : List Node) :
    Gives (fun p => p.type.Formed) (caseParameterOf src first group) := by
  apply (formed_typesIn src _).bind
  intro types hTypes
  split
  · exact gives_error _
  · exact hTypes _ List.mem_cons_self

theorem formed_caseParametersOf (n : Node) :
    Gives (fun ps => AllFormed (ps.map CaseParameter.type)) (caseParametersOf src n) := by
  refine Meets.foldlM (fun group _ parameters hBefore => ?_) (List.forall_mem_nil _)
  split
  · exact hBefore
  · apply (formed_caseParameterOf src _ _).map
    intro p hType
    rw [List.map_append]
    exact List.forall_mem_append.mpr ⟨hBefore, List.forall_mem_singleton.mpr hType⟩

theorem formed_elementStep {elements : List CaseElement}
    (hBefore : ∀ e ∈ elements, AllFormed e.types) (n : Node) :
    Gives (fun elements => ∀ e ∈ elements, AllFormed e.types) (elementStep src elements n) := by
  rw [elementStep]
  split
  · exact List.forall_mem_append.mpr
      ⟨hBefore, List.forall_mem_singleton.mpr (List.forall_mem_nil _)⟩
  · split
    · exact hBefore
    · split
      · exact (formed_caseParametersOf src n).map fun parameters hTypes =>
          forall_mem_modifyLast hBefore fun e _ => hTypes
      · split
        · exact hBefore
        · exact forall_mem_modifyLast hBefore fun e hTypes => hTypes

/-! ## Bindings -/

theorem formed_accessorOf (kind : String) (n : Node) :
    Gives (fun a => a.effects.Formed) (accessorOf src kind n) := by
  rw [accessorOf]
  dsimp only
  generalize (if isSpecifier n then some n else n.parts.find? isSpecifier) = specifier
  cases specifier with
  | none => exact formed_noEffects
  | some specifier => exact (formed_effectsOf src specifier).bind fun effects hFormed => hFormed

theorem formed_accessorBlockOf (n : Node) :
    Gives (fun block => AllFormed block.types) (accessorBlockOf src n) := by
  refine Meets.bind (Q := fun accessors => ∀ a ∈ accessors, a.effects.Formed)
    (Meets.mapM fun pair _ => formed_accessorOf src pair.1 pair.2) fun accessors hFormed => ?_
  split
  · exact List.forall_mem_nil _
  · intro t hMem
    obtain ⟨a, hAccessor, hThrown⟩ := List.mem_filterMap.mp hMem
    exact (hFormed a hAccessor).thrown t (Option.mem_toList.mpr hThrown)

theorem formed_propertyStep {run : PropertyRun} (hRun : ∀ b ∈ run.bindings, AllFormed b.types)
    (n : Node) :
    Gives (fun run => ∀ b ∈ run.bindings, AllFormed b.types) (PropertyRun.step src run n) := by
  have hAnnotation : Gives TypeRef.Formed (annotationOf src n) :=
    (formed_typesIn src n.children).bind fun ts hFormed => formed_firstType src n hFormed
  rw [PropertyRun.step]
  split
  · exact hRun
  · split
    · exact List.forall_mem_append.mpr
        ⟨hRun, List.forall_mem_singleton.mpr (List.forall_mem_nil _)⟩
    · split
      · exact hRun
      · split
        · refine hAnnotation.map fun type hType => forall_mem_modifyLast hRun fun b hTypes => ?_
          exact List.forall_mem_append.mpr
            ⟨List.forall_mem_singleton.mpr hType, (List.forall_mem_append.mp hTypes).right⟩
        · split
          · refine (formed_accessorBlockOf src n).map fun block hBlock =>
              forall_mem_modifyLast hRun fun b hTypes => ?_
            exact List.forall_mem_append.mpr ⟨(List.forall_mem_append.mp hTypes).left, hBlock⟩
          · split
            · exact hRun
            · exact forall_mem_modifyLast hRun fun b hTypes => hTypes

/-! ## Declarations -/

theorem formed_functionOf? (n : Node) :
    Gives (fun f => AllFormed f.types) (functionOf? src n) := by
  apply (formed_typesIn src n.children).bind
  intro results hResults
  split
  · exact gives_error _
  · apply (formed_parametersOf src n).bind
    intro parameters hParameters
    apply (formed_effectsOf src n).bind
    intro effects hEffects
    apply (formed_genericParametersOf src n).bind
    intro generics hGenerics
    apply (formed_whereClauseOf src n).bind
    intro clause hClause
    have hResult : AllFormed results.getLast?.toList := fun t hLast =>
      hResults t (List.mem_of_getLast? (Option.mem_toList.mp hLast))
    refine List.forall_mem_append.mpr ⟨?_, List.forall_mem_append.mpr ⟨hGenerics, hClause⟩⟩
    refine List.forall_mem_append.mpr ⟨?_, hEffects.thrown⟩
    exact List.forall_mem_append.mpr ⟨hParameters, hResult⟩

theorem formed_initializerOf (n : Node) :
    Gives (fun i => AllFormed i.types) (initializerOf src n) := by
  apply (formed_parametersOf src n).bind
  intro parameters hParameters
  apply (formed_effectsOf src n).bind
  intro effects hEffects
  apply (formed_genericParametersOf src n).bind
  intro generics hGenerics
  apply (formed_whereClauseOf src n).bind
  intro clause hClause
  refine List.forall_mem_append.mpr ⟨?_, List.forall_mem_append.mpr ⟨hGenerics, hClause⟩⟩
  exact List.forall_mem_append.mpr ⟨hParameters, hEffects.thrown⟩

theorem formed_variableOf (n : Node) : Gives (fun v => AllFormed v.types) (variableOf src n) := by
  have hRun : Gives (fun run => ∀ b ∈ run.bindings, AllFormed b.types)
      (n.children.foldlM (PropertyRun.step src) ⟨"var", []⟩) :=
    Meets.foldlM (fun c _ run hBefore => formed_propertyStep src hBefore c) (List.forall_mem_nil _)
  apply hRun.bind
  intro run hBindings
  split
  · exact gives_error _
  · exact List.forall_mem_flatMap.mpr hBindings

theorem formed_caseOf (n : Node) : Gives (fun c => AllFormed c.types) (caseOf src n) := by
  have hElements : Gives (fun elements => ∀ e ∈ elements, AllFormed e.types)
      (n.children.foldlM (elementStep src) []) :=
    Meets.foldlM (fun c _ elements hBefore => formed_elementStep src hBefore c)
      (List.forall_mem_nil _)
  exact hElements.bind fun elements hTypes => List.forall_mem_flatMap.mpr hTypes

theorem formed_inheritedType (attributes : List String) (n : Node) :
    Gives TypeRef.Formed (inheritedType src attributes n) := by
  rw [inheritedType]
  split
  · exact gives_error _
  · next part rest _ =>
    exact (formed_typeAt src part).map fun t hType => hType.attributedWith attributes

theorem formed_headerStep {run : HeaderRun} (hRun : run.Formed) (child : ReadDecl) :
    Gives HeaderRun.Formed (HeaderRun.step src run child) := by
  rw [HeaderRun.step]
  split
  · exact ⟨hRun.generics, hRun.inheritance, hRun.clause⟩
  · split
    · exact hRun
    · split
      · split
        · exact (formed_typeAt src child.node).map fun t _ =>
            ⟨hRun.generics, hRun.inheritance, hRun.clause⟩
        · exact ⟨hRun.generics, hRun.inheritance, hRun.clause⟩
      · split
        · exact (formed_genericParametersIn src child.node).map fun ps hGenerics =>
            ⟨hGenerics, hRun.inheritance, hRun.clause⟩
        · split
          · exact ⟨hRun.generics, hRun.inheritance, hRun.clause⟩
          · split
            · refine (formed_inheritedType src run.attributes child.node).map fun t hType =>
                ⟨hRun.generics, ?_, hRun.clause⟩
              exact List.forall_mem_append.mpr
                ⟨hRun.inheritance, List.forall_mem_singleton.mpr hType⟩
            · split
              · exact (formed_whereClauseIn src child.node).map fun clause hClause =>
                  ⟨hRun.generics, hRun.inheritance, hClause⟩
              · split
                · cases hRead : child.reading.members with
                  | ok members => exact ⟨hRun.generics, hRun.inheritance, hRun.clause⟩
                  | error e => exact gives_error e
                · exact hRun

theorem formed_typeDeclOf (n : Node) (children : List ReadDecl) :
    Gives (fun d => AllFormed d.types) (typeDeclOf src n children) := by
  have hRun : Gives HeaderRun.Formed
      (children.foldlM (HeaderRun.step src) ⟨none, none, [], [], [], none, []⟩) :=
    Meets.foldlM (fun r _ run hBefore => formed_headerStep src hBefore r)
      ⟨List.forall_mem_nil _, List.forall_mem_nil _, List.forall_mem_nil _⟩
  apply hRun.bind
  intro run hFormed
  split
  · have hClauses := List.forall_mem_append.mpr ⟨hFormed.generics, hFormed.clause⟩
    exact List.forall_mem_append.mpr ⟨hFormed.inheritance, hClauses⟩
  · exact gives_error _

theorem formed_declAt (n : Node) : Gives (fun d => AllFormed d.types) (declAt src n) := by
  rw [declAt, readDecl_eq]
  change Gives _ (declOf src n (readDecls src n.children))
  unfold declOf
  split
  · exact formed_typeDeclOf src n _
  · exact formed_typeDeclOf src n _
  · exact (formed_functionOf? src n).map fun f hTypes => hTypes
  · exact (formed_functionOf? src n).map fun f hTypes => hTypes
  · exact (formed_initializerOf src n).map fun i hTypes => hTypes
  · exact (formed_variableOf src n).map fun v hTypes => hTypes
  · exact (formed_variableOf src n).map fun v hTypes => hTypes
  · exact (formed_caseOf src n).map fun c hTypes => hTypes
  · exact List.forall_mem_nil _

end

theorem formedThroughout_of_located {src : Source} {K : Node → Prop} {d : Decl}
    (h : LocatedThroughout src K d) : d.FormedThroughout := by
  intro path scope inner hHolds
  -- What is inside was read from a node of its own, so no induction over members is needed.
  obtain ⟨n, -, hRead, -⟩ := (h path scope inner hHolds).own
  exact (formed_declAt src n).of_eq_ok hRead

theorem formedThroughout_declAt {src : Source} {n : Node} {d : Decl}
    (hRead : declAt src n = .ok d) : d.FormedThroughout := by
  have hLocated := located_declAt_preorder src n.self_mem_preorder
  rw [hRead] at hLocated
  exact formedThroughout_of_located hLocated

theorem formedThroughout_parseSourceFile {text : String} {tree : Node} {file : SourceFile}
    (hRead : parseSourceFile text tree = .ok file) : ∀ d ∈ file.declarations, d.FormedThroughout := by
  have hLocated := located_parseSourceFile text tree
  rw [hRead] at hLocated
  exact fun d hMem => formedThroughout_of_located (hLocated d hMem)

theorem formedThroughout_parseDeclaration {text : String} {trees : List Node} {d : Decl}
    (hRead : parseDeclaration text trees = .ok d) : d.FormedThroughout := by
  have hLocated := located_parseDeclaration text trees
  rw [hRead] at hLocated
  obtain ⟨r, -, hOwn⟩ := hLocated
  exact formedThroughout_of_located hOwn

theorem formed_parseType (text : String) (tree : Node) :
    Gives TypeRef.Formed (parseType text tree) := by
  rw [parseType]
  dsimp only
  split
  · exact gives_error _
  · split
    · next node _ =>
      split
      · split
        · exact gives_error _
        · next f hRead =>
          split
          · next t hType =>
            obtain ⟨p, hOnly, -, rfl⟩ := holderType?_eq_some_iff.mp hType
            have hParameters := (formed_functionOf? (typeSource text) node).of_eq_ok hRead
            apply hParameters p.type
            simp [FunctionDecl.types, hOnly]
          · exact gives_error _
      · exact gives_error _
    · exact gives_error _

/-- Every type that is read is in form at every depth, whatever the tree: by itself, in a row of nodes,
in a declaration at any depth, and as a whole text. -/
theorem read_types_formed :
    (∀ src n t, typeAt src n = .ok t → t.Formed) ∧
    (∀ src ns ts, typesIn src ns = .ok ts → AllFormed ts) ∧
    (∀ src n d, declAt src n = .ok d → d.FormedThroughout) ∧
    (∀ text tree file, parseSourceFile text tree = .ok file →
      ∀ d ∈ file.declarations, d.FormedThroughout) ∧
    (∀ text trees d, parseDeclaration text trees = .ok d → d.FormedThroughout) ∧
    ∀ text tree t, parseType text tree = .ok t → t.Formed := by
  refine ⟨?_, ?_, ?_, ?_, ?_, ?_⟩
  · exact fun src n t hRead => (formed_typeAt src n).of_eq_ok hRead
  · exact fun src ns ts hRead => (formed_typesIn src ns).of_eq_ok hRead
  · exact fun src n d hRead => formedThroughout_declAt hRead
  · exact fun text tree file hRead => formedThroughout_parseSourceFile hRead
  · exact fun text trees d hRead => formedThroughout_parseDeclaration hRead
  · exact fun text tree t hRead => (formed_parseType text tree).of_eq_ok hRead

def placeholderText : String := "func holder(_ value: inout any P) \x7b\x7d"

def existentialType : Node :=
  ⟨"existential_type", true, false, false, false, 27, 32,
    [token "any" false 27 30,
     ⟨"user_type", true, false, false, false, 31, 32, [token "type_identifier" true 31 32]⟩]⟩

def placeholderTree : Node :=
  functionTree 36
    [token "func" false 0 4, token "simple_identifier" true 5 11, token "(" false 11 12,
     ⟨"parameter", true, false, false, false, 12, 32,
       [token "simple_identifier" true 12 13, token "simple_identifier" true 14 19,
        token ":" false 19 20, token "parameter_modifier" true 21 26, existentialType]⟩,
     token ")" false 32 33, token "function_body" true 34 36]

def inoutExistential : TypeRef := .attributed ["inout", "any"] (.named "P" [])

theorem read_types_formed_inout :
    (typeAt (bare placeholderText) existentialType = .ok (.attributed ["any"] (.named "P" [])) ∧
      (TypeRef.attributed ["any"] (.named "P" [])).Formed) ∧
    (typesIn (bare placeholderText) [token "parameter_modifier" true 21 26, existentialType] =
        .ok [inoutExistential] ∧
      AllFormed [inoutExistential]) ∧
    (∃ d, declAt (bare placeholderText) placeholderTree.children[0]! = .ok d ∧
      d.FormedThroughout) ∧
    (∃ file, parseSourceFile placeholderText placeholderTree = .ok file ∧
      ∀ d ∈ file.declarations, d.FormedThroughout) ∧
    (∃ d, parseDeclaration placeholderText [placeholderTree] = .ok d ∧ d.FormedThroughout) ∧
    parseType "inout any P" placeholderTree = .ok inoutExistential ∧ inoutExistential.Formed := by
  obtain ⟨hType, hTypes, hDecl, hFile, hDeclaration, hText⟩ := read_types_formed
  obtain ⟨d, hRead⟩ : ∃ d, declAt (bare placeholderText) placeholderTree.children[0]! = .ok d :=
    exists_eq_ok_of_isOk rfl
  obtain ⟨file, hReadFile⟩ : ∃ file, parseSourceFile placeholderText placeholderTree = .ok file :=
    exists_eq_ok_of_isOk rfl
  obtain ⟨only, hReadOnly⟩ : ∃ d, parseDeclaration placeholderText [placeholderTree] = .ok d :=
    exists_eq_ok_of_isOk rfl
  refine ⟨⟨rfl, ?_⟩, ⟨rfl, ?_⟩, ⟨d, hRead, ?_⟩, ⟨file, hReadFile, ?_⟩, ⟨only, hReadOnly, ?_⟩, rfl, ?_⟩
  · exact hType (bare placeholderText) existentialType _ rfl
  · exact hTypes (bare placeholderText) [token "parameter_modifier" true 21 26, existentialType] _ rfl
  · exact hDecl (bare placeholderText) _ d hRead
  · exact hFile placeholderText placeholderTree file hReadFile
  · exact hDeclaration placeholderText [placeholderTree] only hReadOnly
  · exact hText "inout any P" placeholderTree _ rfl

end SwiftDerive.Reading
