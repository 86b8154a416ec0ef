import SwiftDerive.Proofs.Reading.Origins
import SwiftDerive.Proofs.Reading.Places

/-! # Places in declarations

Every place in a declaration that was read, and every place of an error, is that of a node of the tree.
Where the node starts with a character of the given text, it is the place of that character in the text
itself, inside a holder too.
-/

namespace SwiftDerive

set_option autoImplicit false

def attributePlaces (attributes : List Attribute) : List Position :=
  attributes.filterMap (·.position)

def CaseElement.places (e : CaseElement) : List Position :=
  e.position.toList ++ (e.parameters.getD []).filterMap (·.position)

def Decl.places (d : Decl) : List Position :=
  d.position.toList ++ attributePlaces d.attributes ++
    match d with
    | .function f => f.parameters.flatMap (attributePlaces ·.attributes)
    | .initializer i => i.parameters.flatMap (attributePlaces ·.attributes)
    | .enumCase c => c.elements.flatMap CaseElement.places
    | _ => []

end SwiftDerive

namespace SwiftDerive.Reading

set_option autoImplicit false

open Grammar Grammar.Node

def Placed (src : Source) (K : Node → Prop) (ps : List Position) : Prop :=
  ∀ p ∈ ps, PlaceOf src K p

structure ParameterRun.Placed (src : Source) (K : Node → Prop) (run : ParameterRun) : Prop where
  parameters : ∀ p ∈ run.parameters, Reading.Placed src K (attributePlaces p.attributes)
  attributes : Reading.Placed src K (attributePlaces run.attributes)

/-- The declaration was read from a node of a set, has the place of that node, and all other places in
it are those of nodes of the set. -/
structure Located (src : Source) (K : Node → Prop) (d : Decl) : Prop where
  own : ∃ n, K n ∧ declAt src n = .ok d ∧ d.position = some (src.position n)
  all : Placed src K d.places

def LocatedThroughout (src : Source) (K : Node → Prop) (d : Decl) : Prop :=
  ∀ path scope inner, d.Holds path scope inner → Located src K inner

/-- The declaration has the place of the node, the other places in it are those of nodes of a set, and
what is inside it is located. -/
structure ReadAt (src : Source) (K : Node → Prop) (n : Node) (d : Decl) : Prop where
  position : d.position = some (src.position n)
  places : Placed src K d.places
  members : ∀ m ∈ d.members, LocatedThroughout src K m

theorem forall_mem_modifyLast {α : Type} {Q : α → Prop} {f : α → α} {xs : List α}
    (hAll : ∀ x ∈ xs, Q x) (hStep : ∀ x, Q x → Q (f x)) : ∀ x ∈ modifyLast f xs, Q x := by
  induction xs using modifyLast.induct with
  | case1 => exact fun x hMem => nomatch hMem
  | case2 x =>
    intro y hMem
    rw [modifyLast, List.mem_singleton] at hMem
    exact hMem ▸ hStep x (hAll x List.mem_cons_self)
  | case3 x y rest ih =>
    obtain ⟨hHead, hTail⟩ := List.forall_mem_cons.mp hAll
    rw [modifyLast]
    exact List.forall_mem_cons.mpr ⟨hHead, ih hTail⟩

section

variable {src : Source} {K : Node → Prop}

theorem placed_nil : Placed src K [] := List.forall_mem_nil _

theorem placed_append {ps qs : List Position} :
    Placed src K (ps ++ qs) ↔ Placed src K ps ∧ Placed src K qs :=
  List.forall_mem_append

theorem placed_flatMap {α : Type} {xs : List α} {f : α → List Position} :
    Placed src K (xs.flatMap f) ↔ ∀ x ∈ xs, Placed src K (f x) :=
  List.forall_mem_flatMap

theorem placed_position {n : Node} (hNode : K n) : Placed src K [src.position n] :=
  List.forall_mem_singleton.mpr ⟨n, hNode, rfl⟩

theorem position_attributeOf (n : Node) : (attributeOf src n).position = some (src.position n) := by
  rw [attributeOf]
  split
  · rfl
  · rfl

theorem attributePlaces_append (attributes : List Attribute) (n : Node) :
    attributePlaces (attributes ++ [attributeOf src n]) =
      attributePlaces attributes ++ [src.position n] := by
  rw [attributePlaces, List.filterMap_append, List.filterMap_cons, position_attributeOf]
  rfl

/-! ## Attributes and parameters -/

section

variable (hClosed : Closed K)

include hClosed

theorem placed_decorationsOf (keywords : List String) {n : Node} (hNode : K n) :
    Placed src K (attributePlaces (decorationsOf src keywords n).attributes) := by
  have hFold {items : List Node} (hItems : ∀ c ∈ items, K c)
      {step : Decorations → Node → Decorations}
      (hStep : ∀ c, K c → ∀ d : Decorations, Placed src K (attributePlaces d.attributes) →
        Placed src K (attributePlaces (step d c).attributes))
      {d : Decorations} (hStart : Placed src K (attributePlaces d.attributes)) :
      Placed src K (attributePlaces (items.foldl step d).attributes) := by
    induction items generalizing d with
    | nil => exact hStart
    | cons c items ih =>
      obtain ⟨hHead, hTail⟩ := List.forall_mem_cons.mp hItems
      exact ih hTail (hStep c hHead d hStart)
  refine hFold (hClosed n hNode) (fun child hChild d hBefore => ?_) placed_nil
  split
  · refine hFold (fun c hMem => hClosed.part hChild hMem) (fun item hItem d hBefore => ?_) hBefore
    split
    · rw [attributePlaces_append]
      exact placed_append.mpr ⟨hBefore, placed_position hItem⟩
    · exact hBefore
  · split
    · exact hBefore
    · exact hBefore

theorem placed_parameterOf {n : Node} (hNode : K n) {attributes : List Attribute}
    (hAttributes : Placed src K (attributePlaces attributes)) :
    Meets (ErrorOf src K) (fun p => Placed src K (attributePlaces p.attributes))
      (parameterOf src n attributes) := by
  refine (traced_typesIn hClosed (hClosed n hNode)).bind fun types _ => ?_
  split
  · exact hAttributes
  · exact errorOf_error hNode

theorem placed_parameterStep {run : ParameterRun} {n : Node} (hNode : K n)
    (hRun : run.Placed src K) :
    Meets (ErrorOf src K) (ParameterRun.Placed src K) (ParameterRun.step src run n) := by
  rw [ParameterRun.step]
  split
  · refine ⟨hRun.parameters, ?_⟩
    rw [attributePlaces_append]
    exact placed_append.mpr ⟨hRun.attributes, placed_position hNode⟩
  · split
    · have hParameter := placed_parameterOf hClosed hNode hRun.attributes
      cases hRead : parameterOf src n run.attributes with
      | ok p =>
        rw [hRead] at hParameter
        refine ⟨?_, placed_nil⟩
        exact List.forall_mem_append.mpr
          ⟨hRun.parameters, List.forall_mem_singleton.mpr hParameter⟩
      | error e =>
        rw [hRead] at hParameter
        exact hParameter
    · exact ⟨forall_mem_modifyLast hRun.parameters fun p hPlaced => hPlaced, hRun.attributes⟩

theorem placed_parametersOf {n : Node} (hNode : K n) :
    Meets (ErrorOf src K) (fun ps => ∀ p ∈ ps, Placed src K (attributePlaces p.attributes))
      (parametersOf src n) := by
  have hRun : Meets (ErrorOf src K) (ParameterRun.Placed src K)
      ((clauseParts 0 n.children).foldlM (ParameterRun.step src) ⟨[], []⟩) := by
    refine Meets.foldlM (fun c hMem run hBefore => ?_) ⟨List.forall_mem_nil _, placed_nil⟩
    exact placed_parameterStep hClosed (hClosed n hNode c (mem_clauseParts hMem).left) hBefore
  exact hRun.map fun run hPlaced => hPlaced.parameters

/-! ## Elements of `case` declarations -/

theorem position_caseParameterOf {first : Node} {group : List Node} (hGroup : ∀ c ∈ group, K c)
    (hFirst : K first) :
    Meets (ErrorOf src K) (fun p => p.position = some (src.position first))
      (caseParameterOf src first group) := by
  have hTypes : Traced src K
      (typesIn src (group.foldl (CaseParameterRun.step src) ⟨[], [], none⟩).types) :=
    traced_typesIn hClosed fun c hMem =>
      hGroup c ((mem_caseParameterRun hMem).resolve_left List.not_mem_nil)
  refine hTypes.bind fun types _ => ?_
  split
  · exact errorOf_error hFirst
  · rfl

theorem placed_caseParametersOf {n : Node} (hNode : K n) :
    Meets (ErrorOf src K) (fun ps => Placed src K (ps.filterMap (·.position)))
      (caseParametersOf src n) := by
  refine Meets.foldlM (fun group hGroup parameters hBefore => ?_) placed_nil
  have hMembers : ∀ c ∈ group, K c := fun c hMem =>
    hClosed n hNode c (mem_commaGroups hGroup hMem).left
  split
  · exact hBefore
  · next first rest =>
    have hFirst := hMembers first List.mem_cons_self
    refine (position_caseParameterOf hClosed hMembers hFirst).map fun p hPosition => ?_
    rw [List.filterMap_append, List.filterMap_cons, hPosition]
    exact placed_append.mpr ⟨hBefore, placed_position hFirst⟩

theorem placed_elementStep {elements : List CaseElement} {n : Node} (hNode : K n)
    (hBefore : ∀ e ∈ elements, Placed src K e.places) :
    Meets (ErrorOf src K) (fun elements => ∀ e ∈ elements, Placed src K e.places)
      (elementStep src elements n) := by
  rw [elementStep]
  split
  · exact List.forall_mem_append.mpr
      ⟨hBefore, List.forall_mem_singleton.mpr (placed_position hNode)⟩
  · split
    · exact hBefore
    · split
      · refine (placed_caseParametersOf hClosed hNode).map fun parameters hParameters => ?_
        refine forall_mem_modifyLast hBefore fun e hElement => ?_
        exact placed_append.mpr ⟨(placed_append.mp hElement).left, hParameters⟩
      · split
        · exact hBefore
        · exact forall_mem_modifyLast hBefore fun e hElement => hElement

/-! ## Declarations -/

theorem traced_propertyStep (run : PropertyRun) {n : Node} (hNode : K n) :
    Traced src K (PropertyRun.step src run n) := by
  have hAnnotation : Traced src K (annotationOf src n) :=
    (traced_typesIn hClosed (hClosed n hNode)).bind fun ts _ => traced_firstType hNode ts
  rw [PropertyRun.step]
  split
  · exact traced_ok _
  · split
    · exact traced_ok _
    · split
      · exact traced_ok _
      · split
        · exact hAnnotation.map _
        · split
          · exact (traced_accessorBlockOf hClosed hNode).map _
          · split
            · exact traced_ok _
            · exact traced_ok _

theorem traced_inheritedType (attributes : List String) {n : Node} (hNode : K n) :
    Traced src K (inheritedType src attributes n) := by
  rw [inheritedType]
  split
  · exact errorOf_error hNode
  · next part rest hParts =>
    exact (traced_typeAt hClosed (hClosed.part hNode (hParts ▸ List.mem_cons_self))).map _

theorem placed_functionOf? {n : Node} (hNode : K n) :
    Meets (ErrorOf src K)
      (fun f => f.position = some (src.position n) ∧ Placed src K (Decl.function f).places)
      (functionOf? src n) := by
  refine (traced_typesIn hClosed (hClosed n hNode)).bind fun results _ => ?_
  split
  · exact errorOf_error hNode
  · refine (placed_parametersOf hClosed hNode).bind fun parameters hParameters => ?_
    refine (traced_effectsOf hClosed hNode).bind fun effects _ => ?_
    refine (traced_genericParametersOf hClosed hNode).bind fun generics _ => ?_
    refine (traced_whereClauseOf hClosed hNode).bind fun clause _ => ⟨rfl, ?_⟩
    refine placed_append.mpr ⟨placed_append.mpr ⟨placed_position hNode, ?_⟩, ?_⟩
    · exact placed_decorationsOf hClosed ["class"] hNode
    · exact placed_flatMap.mpr hParameters

theorem placed_initializerOf {n : Node} (hNode : K n) :
    Meets (ErrorOf src K)
      (fun i => i.position = some (src.position n) ∧ Placed src K (Decl.initializer i).places)
      (initializerOf src n) := by
  refine (placed_parametersOf hClosed hNode).bind fun parameters hParameters => ?_
  refine (traced_effectsOf hClosed hNode).bind fun effects _ => ?_
  refine (traced_genericParametersOf hClosed hNode).bind fun generics _ => ?_
  refine (traced_whereClauseOf hClosed hNode).bind fun clause _ => ⟨rfl, ?_⟩
  refine placed_append.mpr ⟨placed_append.mpr ⟨placed_position hNode, ?_⟩, ?_⟩
  · exact placed_decorationsOf hClosed ["class"] hNode
  · exact placed_flatMap.mpr hParameters

theorem placed_variableOf {n : Node} (hNode : K n) :
    Meets (ErrorOf src K)
      (fun v => v.position = some (src.position n) ∧ Placed src K (Decl.variable v).places)
      (variableOf src n) := by
  have hRun : Traced src K (n.children.foldlM (PropertyRun.step src) ⟨"var", []⟩) :=
    traced_foldlM (fun c hMem run => traced_propertyStep hClosed run (hClosed n hNode c hMem)) _
  refine hRun.bind fun run _ => ?_
  split
  · exact errorOf_error hNode
  · refine ⟨rfl, ?_⟩
    refine placed_append.mpr ⟨placed_append.mpr ⟨placed_position hNode, ?_⟩, placed_nil⟩
    exact placed_decorationsOf hClosed [] hNode

theorem placed_caseOf {n : Node} (hNode : K n) :
    Meets (ErrorOf src K)
      (fun c => c.position = some (src.position n) ∧ Placed src K (Decl.enumCase c).places)
      (caseOf src n) := by
  have hElements : Meets (ErrorOf src K) (fun elements => ∀ e ∈ elements, Placed src K e.places)
      (n.children.foldlM (elementStep src) []) := by
    refine Meets.foldlM (fun c hMem elements hBefore => ?_) (List.forall_mem_nil _)
    exact placed_elementStep hClosed (hClosed n hNode c hMem) hBefore
  refine hElements.bind fun elements hPlaced => ⟨rfl, ?_⟩
  refine placed_append.mpr ⟨placed_append.mpr ⟨placed_position hNode, ?_⟩, ?_⟩
  · exact placed_decorationsOf hClosed ["indirect"] hNode
  · exact placed_flatMap.mpr hPlaced

theorem located_headerStep {run : HeaderRun} {child : ReadDecl} (hNode : K child.node)
    (hMembers : Meets (ErrorOf src K) (fun ms => ∀ m ∈ ms, LocatedThroughout src K m)
      child.reading.members)
    (hBefore : ∀ m ∈ run.members, LocatedThroughout src K m) :
    Meets (ErrorOf src K) (fun run => ∀ m ∈ run.members, LocatedThroughout src K m)
      (HeaderRun.step src run child) := by
  have hKept {α : Type} {x : Except ParseError α} {f : α → HeaderRun} (hRead : Traced src K x)
      (hSame : ∀ a, (f a).members = run.members) :
      Meets (ErrorOf src K) (fun run => ∀ m ∈ run.members, LocatedThroughout src K m) (x.map f) :=
    Meets.map hRead fun a _ => hSame a ▸ hBefore
  rw [HeaderRun.step]
  split
  · exact hBefore
  · split
    · exact hBefore
    · split
      · split
        · exact hKept (traced_typeAt hClosed hNode) fun _ => rfl
        · exact hBefore
      · split
        · exact hKept (traced_genericParametersIn hClosed hNode) fun _ => rfl
        · split
          · exact hBefore
          · split
            · exact hKept (traced_inheritedType hClosed run.attributes hNode) fun _ => rfl
            · split
              · exact hKept (traced_whereClauseIn hClosed hNode) fun _ => rfl
              · split
                · exact hMembers.map fun ms hLocated => hLocated
                · exact hBefore

theorem readAt_typeDeclOf {n : Node} (hNode : K n) {children : List ReadDecl}
    (hChildren : ∀ r ∈ children, K r.node ∧
      Meets (ErrorOf src K) (fun ms => ∀ m ∈ ms, LocatedThroughout src K m) r.reading.members) :
    Meets (ErrorOf src K) (ReadAt src K n) (typeDeclOf src n children) := by
  have hRun : Meets (ErrorOf src K) (fun run => ∀ m ∈ run.members, LocatedThroughout src K m)
      (children.foldlM (HeaderRun.step src) ⟨none, none, [], [], [], none, []⟩) := by
    refine Meets.foldlM (fun r hMem run hBefore => ?_) (List.forall_mem_nil _)
    obtain ⟨hChild, hMembers⟩ := hChildren r hMem
    exact located_headerStep hClosed hChild hMembers hBefore
  refine hRun.bind fun run hMembers => ?_
  split
  · refine ⟨rfl, ?_, hMembers⟩
    refine placed_append.mpr ⟨placed_append.mpr ⟨placed_position hNode, ?_⟩, placed_nil⟩
    exact placed_decorationsOf hClosed ["indirect"] hNode
  · exact errorOf_error hNode

theorem readAt_declOf {n : Node} (hNode : K n) {children : List ReadDecl}
    (hChildren : ∀ r ∈ children, K r.node ∧
      Meets (ErrorOf src K) (fun ms => ∀ m ∈ ms, LocatedThroughout src K m) r.reading.members) :
    Meets (ErrorOf src K) (ReadAt src K n) (declOf src n children) := by
  unfold declOf
  split
  · exact readAt_typeDeclOf hClosed hNode hChildren
  · exact readAt_typeDeclOf hClosed hNode hChildren
  · exact (placed_functionOf? hClosed hNode).map fun f h => ⟨h.left, h.right, nofun⟩
  · exact (placed_functionOf? hClosed hNode).map fun f h => ⟨h.left, h.right, nofun⟩
  · exact (placed_initializerOf hClosed hNode).map fun i h => ⟨h.left, h.right, nofun⟩
  · exact (placed_variableOf hClosed hNode).map fun v h => ⟨h.left, h.right, nofun⟩
  · exact (placed_variableOf hClosed hNode).map fun v h => ⟨h.left, h.right, nofun⟩
  · exact (placed_caseOf hClosed hNode).map fun c h => ⟨h.left, h.right, nofun⟩
  · refine ⟨rfl, ?_, nofun⟩
    exact placed_append.mpr ⟨placed_append.mpr ⟨placed_position hNode, placed_nil⟩, placed_nil⟩

omit hClosed in
theorem locatedThroughout_of_readAt {n : Node} {d : Decl} (hNode : K n)
    (hRead : declAt src n = .ok d) (hDecl : ReadAt src K n d) : LocatedThroughout src K d := by
  intro path scope inner hHolds
  cases hHolds with
  | itself => exact ⟨⟨n, hNode, hRead, hDecl.position⟩, hDecl.places⟩
  | member hMember hInner =>
    exact hDecl.members _ (List.mem_of_getElem? hMember) _ _ inner hInner

theorem readAt_readDecl {n : Node} (hNode : K n) :
    Meets (ErrorOf src K) (ReadAt src K n) (readDecl src n).decl ∧
      Meets (ErrorOf src K) (fun ms => ∀ m ∈ ms, LocatedThroughout src K m)
        (readDecl src n).members := by
  induction n using children_induction with
  | step n ih =>
    have hChildren : ∀ r ∈ readDecls src n.children, K r.node ∧
        Meets (ErrorOf src K) (fun ms => ∀ m ∈ ms, LocatedThroughout src K m)
          r.reading.members := by
      intro r hMem
      rw [readDecls_eq_map, List.mem_map] at hMem
      obtain ⟨c, hChild, rfl⟩ := hMem
      have hBelow := hClosed n hNode c hChild
      exact ⟨hBelow, (ih c hChild hBelow).right⟩
    rw [readDecl_eq]
    refine ⟨readAt_declOf hClosed hNode hChildren, Meets.mapM fun r hFiltered => ?_⟩
    have hMem := (List.mem_filter.mp hFiltered).left
    rw [readDecls_eq_map, List.mem_map] at hMem
    obtain ⟨c, hChild, rfl⟩ := hMem
    have hBelow := hClosed n hNode c hChild
    refine (ih c hChild hBelow).left.of_ok.imp (fun _ hError => hError) ?_
    rintro d ⟨hRead, hDecl⟩
    exact locatedThroughout_of_readAt hBelow hRead hDecl

theorem located_declAt {n : Node} (hNode : K n) :
    Meets (ErrorOf src K)
      (fun d => d.position = some (src.position n) ∧ LocatedThroughout src K d)
      (declAt src n) := by
  refine (readAt_readDecl hClosed hNode).left.of_ok.imp (fun _ hError => hError) ?_
  rintro d ⟨hRead, hDecl⟩
  exact ⟨hDecl.position, locatedThroughout_of_readAt hNode hRead hDecl⟩

end

end

end SwiftDerive.Reading
