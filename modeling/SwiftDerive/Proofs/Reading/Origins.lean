import SwiftDerive.Proofs.Nesting
import SwiftDerive.Proofs.Reading.Declarations

/-! # Where places come from

The error of a failed reading is that of a node of the tree, and so are the places in the declarations
of a successful one. What is shown of the nodes of a tree holds therefore of whatever is reported.
-/

namespace SwiftDerive.Grammar.Node

set_option autoImplicit false

mutual

def preorder (n : Node) : List Node :=
  match n with
  | ⟨_, _, _, _, _, _, _, children⟩ => n :: preorderAmong children

def preorderAmong : List Node → List Node
  | [] => []
  | n :: ns => n.preorder ++ preorderAmong ns

end

theorem preorder_eq (n : Node) : n.preorder = n :: preorderAmong n.children := by
  cases n
  rw [preorder]

theorem preorderAmong_eq_flatMap (ns : List Node) : preorderAmong ns = ns.flatMap preorder := by
  induction ns with
  | nil => rfl
  | cons n ns ih => rw [preorderAmong, ih, List.flatMap_cons]

def Closed (K : Node → Prop) : Prop :=
  ∀ n, K n → ∀ c ∈ n.children, K c

theorem Closed.part {K : Node → Prop} (hClosed : Closed K) {n c : Node} (hNode : K n)
    (hPart : c ∈ n.parts) : K c :=
  hClosed n hNode c (List.mem_filter.mp hPart).left

theorem Closed.firstError {K : Node → Prop} (hClosed : Closed K) {n : Node} (hNode : K n) :
    K n.firstError := by
  have hAmong : ∀ ns : List Node, (∀ c ∈ ns, K c → K c.firstError) → (∀ c ∈ ns, K c) →
      ∀ m, firstErrorAmong ns = some m → K m := by
    intro ns
    induction ns with
    | nil => exact fun _ _ m hFound => nomatch hFound
    | cons c ns ih =>
      intro hInner hNodes m hFound
      obtain ⟨hHead, hTail⟩ := List.forall_mem_cons.mp hInner
      obtain ⟨hFirst, hRest⟩ := List.forall_mem_cons.mp hNodes
      rw [firstErrorAmong] at hFound
      split at hFound
      · cases hFound
        exact hHead hFirst
      · exact ih hTail hRest m hFound
  induction n using children_induction with
  | step n ih =>
    rw [firstError_eq]
    split
    · exact hNode
    · have hChildren := hClosed n hNode
      cases hFound : firstErrorAmong n.children with
      | none => exact hNode
      | some m => exact hAmong n.children (fun c hMem => ih c hMem) hChildren m hFound

theorem self_mem_preorder (n : Node) : n ∈ n.preorder := by
  rw [preorder_eq]
  exact List.mem_cons_self

theorem closed_preorder (root : Node) : Closed (· ∈ root.preorder) := by
  induction root using children_induction with
  | step root ih =>
    intro n hMem c hChild
    rw [preorder_eq, preorderAmong_eq_flatMap, List.mem_cons, List.mem_flatMap] at hMem ⊢
    refine .inr ?_
    rcases hMem with rfl | ⟨d, hBelow, hInner⟩
    · exact ⟨c, hChild, self_mem_preorder c⟩
    · exact ⟨d, hBelow, ih d hBelow n hInner c hChild⟩

end SwiftDerive.Grammar.Node

namespace SwiftDerive.Reading

set_option autoImplicit false

open Grammar Grammar.Node

def ErrorOf (src : Source) (K : Node → Prop) (e : ParseError) : Prop :=
  ∃ n, K n ∧ e = src.error n

def PlaceOf (src : Source) (K : Node → Prop) (p : Position) : Prop :=
  ∃ n, K n ∧ p = src.position n

abbrev Traced (src : Source) (K : Node → Prop) {α : Type} (x : Except ParseError α) : Prop :=
  Meets (ErrorOf src K) (fun _ => True) x

structure TypeReading.Traced (src : Source) (K : Node → Prop) (r : TypeReading) : Prop where
  types : Reading.Traced src K r.types
  element : Reading.Traced src K r.element
  elements : Reading.Traced src K r.elements
  type : Reading.Traced src K r.type

section

variable {src : Source} {K : Node → Prop}

theorem traced_ok {α : Type} (a : α) : Traced src K (.ok a : Except ParseError α) := trivial

theorem errorOf_error {n : Node} (hNode : K n) : ErrorOf src K (src.error n) :=
  ⟨n, hNode, rfl⟩

theorem traced_error {α : Type} {n : Node} (hNode : K n) :
    Traced src K (.error (src.error n) : Except ParseError α) :=
  errorOf_error hNode

theorem Traced.map {α β : Type} {x : Except ParseError α} (h : Traced src K x) (f : α → β) :
    Traced src K (x.map f) :=
  Meets.map h fun _ _ => trivial

theorem traced_foldlM {α β : Type} {items : List α} {f : β → α → Except ParseError β}
    (h : ∀ a ∈ items, ∀ b, Traced src K (f b a)) (b : β) : Traced src K (items.foldlM f b) :=
  Meets.foldlM (fun a hMem b _ => h a hMem b) trivial

theorem traced_mapM {α β : Type} {items : List α} {f : α → Except ParseError β}
    (h : ∀ a ∈ items, Traced src K (f a)) : Traced src K (items.mapM f) :=
  Meets.imp (Meets.mapM h) (fun _ hError => hError) fun _ _ => trivial

/-! ## Types -/

theorem traced_firstType {n : Node} (hNode : K n) (ts : List TypeRef) :
    Traced src K (firstType src n ts) := by
  cases ts with
  | nil => exact traced_error hNode
  | cons t ts => exact traced_ok t

theorem traced_typeStep (run : TypeRun) {r : ReadNode} (hType : Traced src K r.reading.type) :
    Traced src K (TypeRun.step src run r) := by
  rw [TypeRun.step]
  split
  · exact traced_ok _
  · split
    · cases hRead : r.reading.type with
      | ok t => exact traced_ok _
      | error e =>
        rw [hRead] at hType
        exact hType
    · split
      · exact traced_ok _
      · split
        · exact traced_ok _
        · exact traced_ok _

theorem traced_typesAmong {nodes : List ReadNode}
    (hTypes : ∀ r ∈ nodes, Traced src K r.reading.type) : Traced src K (typesAmong src nodes) := by
  refine Traced.map ?_ _
  exact traced_foldlM (fun r hMem run => traced_typeStep run (hTypes r hMem)) _

theorem traced_effectsAmong {nodes : List ReadNode}
    (hTypes : ∀ r ∈ nodes, Traced src K r.reading.types) :
    Traced src K (effectsAmong src nodes) := by
  refine traced_foldlM (fun r hMem effects => ?_) _
  split
  · exact traced_ok _
  · split
    · have hThrown := hTypes r hMem
      cases hRead : r.reading.types with
      | ok types => exact traced_ok _
      | error e =>
        rw [hRead] at hThrown
        exact hThrown
    · exact traced_ok _

theorem traced_elementOf {n : Node} (hNode : K n) (children : List ReadNode)
    {types : Except ParseError (List TypeRef)} (hTypes : Traced src K types) :
    Traced src K (elementOf src n children types) :=
  hTypes.bind fun ts _ => (traced_firstType hNode ts).bind fun _ _ => trivial

theorem traced_elementsOf (n : Node) {children : List ReadNode}
    {types : Except ParseError (List TypeRef)} {element : Except ParseError (TupleElement TypeRef)}
    (hTypes : Traced src K types) (hElement : Traced src K element)
    (hItems : ∀ r ∈ children, Traced src K r.reading.element) :
    Traced src K (elementsOf n children types element) := by
  rw [elementsOf]
  split
  · exact hElement.map _
  · dsimp only
    split
    · exact hTypes.map _
    · exact traced_mapM fun r hMem => hItems r (List.mem_filter.mp hMem).left

theorem traced_pathStep (path : Option TypeRef) {r : ReadNode}
    (hTypes : Traced src K r.reading.types) : Traced src K (pathStep src path r) := by
  unfold pathStep
  split
  · exact traced_ok _
  · exact traced_ok _
  · exact hTypes.map _
  · exact traced_ok _

theorem traced_functionOf {n : Node} (hNode : K n) {children : List ReadNode}
    (hChildren : ∀ r ∈ children, r.reading.Traced src K) :
    Traced src K (functionOf src n children) := by
  rw [functionOf]
  split
  · exact traced_error hNode
  · next arguments rest hParts =>
    have hMem : arguments ∈ children := by
      have hFiltered : arguments ∈ children.filter ReadNode.isPart := hParts ▸ List.mem_cons_self
      exact (List.mem_filter.mp hFiltered).left
    have hArguments := hChildren arguments hMem
    have hBehind : Traced src K
        (typesAmong src (children.filter fun r => arguments.node.stop ≤ r.node.start)) :=
      traced_typesAmong fun r hFiltered => (hChildren r (List.mem_filter.mp hFiltered).left).type
    have hEffects := traced_effectsAmong fun r hMem => (hChildren r hMem).types
    dsimp only
    split
    case isTrue =>
      refine hArguments.elements.bind fun parameters _ => hBehind.bind fun types _ => ?_
      split
      · exact traced_error hNode
      · exact hEffects.bind fun _ _ => trivial
    case isFalse =>
      refine (hArguments.type.map _).bind fun parameters _ => hBehind.bind fun types _ => ?_
      split
      · exact traced_error hNode
      · exact hEffects.bind fun _ _ => trivial

theorem traced_compositionOf {n : Node} (hNode : K n) (types : List TypeRef) :
    Traced src K (compositionOf src n types) := by
  rw [compositionOf]
  split
  · exact traced_error hNode
  · split
    · exact traced_ok _
    · exact traced_ok _
  · exact traced_ok _

theorem traced_typeOf {n : Node} (hNode : K n) {children : List ReadNode}
    (hChildren : ∀ r ∈ children, r.reading.Traced src K)
    {types : Except ParseError (List TypeRef)} {element : Except ParseError (TupleElement TypeRef)}
    {elements : Except ParseError (List (TupleElement TypeRef))}
    (hTypes : Traced src K types) (hElement : Traced src K element)
    (hElements : Traced src K elements) :
    Traced src K (typeOf src n children types element elements) := by
  have hFirst (f : TypeRef → TypeRef) :
      Traced src K (do return f (← firstType src n (← types))) :=
    hTypes.bind fun ts _ => (traced_firstType hNode ts).bind fun _ _ => trivial
  rw [typeOf]
  split
  · exact hFirst _
  · split
    · exact traced_ok _
    · exact traced_ok _
    · have hPath : Traced src K ((children.filter ReadNode.isPart).foldlM (pathStep src) none) :=
        traced_foldlM (fun r hMem path =>
          traced_pathStep path (hChildren r (List.mem_filter.mp hMem).left).types) none
      refine hPath.bind fun path _ => ?_
      split
      · exact traced_ok _
      · exact traced_error hNode
    · exact hElements.map _
    · exact hElement.map _
    · exact traced_functionOf hNode hChildren
    · exact hFirst _
    · refine hTypes.bind fun ts _ => ?_
      split
      · exact traced_ok _
      · exact traced_error hNode
    · exact hFirst _
    · exact hFirst _
    · exact hTypes.bind fun ts _ => traced_compositionOf hNode ts
    · exact traced_ok _

theorem traced_readNode (hClosed : Closed K) {n : Node} (hNode : K n) :
    (readNode src n).Traced src K := by
  induction n using children_induction with
  | step n ih =>
    have hChildren : ∀ r ∈ readNodes src n.children, r.reading.Traced src K := by
      intro r hMem
      rw [readNodes_eq_map, List.mem_map] at hMem
      obtain ⟨c, hChild, rfl⟩ := hMem
      exact ih c hChild (hClosed n hNode c hChild)
    have hTypes : Traced src K (typesAmong src (readNodes src n.children)) :=
      traced_typesAmong fun r hMem => (hChildren r hMem).type
    have hElement := traced_elementOf hNode (readNodes src n.children) hTypes
    have hElements := traced_elementsOf n hTypes hElement fun r hMem => (hChildren r hMem).element
    rw [readNode_eq]
    constructor
    · exact hTypes
    · exact hElement
    · exact hElements
    · exact traced_typeOf hNode hChildren hTypes hElement hElements

end

section

variable {src : Source} {K : Node → Prop} (hClosed : Closed K)

include hClosed

theorem traced_typeAt {n : Node} (hNode : K n) : Traced src K (typeAt src n) :=
  (traced_readNode hClosed hNode).type

theorem traced_typesIn {ns : List Node} (hNodes : ∀ n ∈ ns, K n) :
    Traced src K (typesIn src ns) := by
  refine traced_typesAmong fun r hMem => ?_
  rw [readNodes_eq_map, List.mem_map] at hMem
  obtain ⟨n, hNode, rfl⟩ := hMem
  exact traced_typeAt hClosed (hNodes n hNode)

theorem traced_effectsOf {n : Node} (hNode : K n) : Traced src K (effectsOf src n) := by
  refine traced_effectsAmong fun r hMem => ?_
  rw [readNodes_eq_map, List.mem_map] at hMem
  obtain ⟨c, hChild, rfl⟩ := hMem
  exact (traced_readNode hClosed (hClosed n hNode c hChild)).types

/-! ## Generic parameters and `where` clauses -/

theorem traced_genericParameterOf {n : Node} (hNode : K n) :
    Traced src K (genericParameterOf src n) := by
  rw [genericParameterOf]
  dsimp only
  split
  · exact traced_error hNode
  · next name rest hFound =>
    have hSublist : name :: rest ⊆ n.children := hFound ▸ (List.dropWhile_sublist _).subset
    have hTypes : Traced src K (typesIn src rest) := traced_typesIn hClosed fun c hMem =>
      hClosed n hNode c (hSublist (List.mem_cons_of_mem name hMem))
    exact hTypes.bind fun _ _ => trivial

theorem traced_genericParametersIn {n : Node} (hNode : K n) :
    Traced src K (genericParametersIn src n) := by
  refine traced_mapM fun c hMem => ?_
  exact traced_genericParameterOf hClosed (hClosed.part hNode (List.mem_filter.mp hMem).left)

theorem traced_genericParametersOf {n : Node} (hNode : K n) :
    Traced src K (genericParametersOf src n) := by
  rw [genericParametersOf]
  split
  · exact traced_ok _
  · next list hFound =>
    exact traced_genericParametersIn hClosed
      (hClosed n hNode list (List.mem_of_find?_eq_some hFound))

theorem closed_constraintsIn {n m : Node} (hNode : K n) (hMem : m ∈ constraintsIn n) : K m := by
  induction n using children_induction with
  | step n ih =>
    rw [constraintsIn_eq, constraintsAmong_eq_flatMap, List.mem_flatMap] at hMem
    obtain ⟨c, hChild, hOwn⟩ := hMem
    have hNext := hClosed n hNode c hChild
    split at hOwn
    · cases hOwn
    · split at hOwn
      · exact List.mem_singleton.mp hOwn ▸ hNext
      · split at hOwn
        · exact ih c hChild hNext hOwn
        · cases hOwn

theorem traced_constrainedStep (found : Option TypeRef) {n : Node} (hNode : K n) :
    Traced src K (constrainedStep src found n) := by
  unfold constrainedStep
  split
  · exact traced_ok _
  · split
    · exact (traced_typeAt hClosed hNode).map _
    · split
      · split
        · exact traced_ok _
        · exact traced_ok _
      · exact traced_ok _

theorem traced_requirementOf {n : Node} (hNode : K n) : Traced src K (requirementOf src n) := by
  have hParts : ∀ c ∈ n.parts.filter (·.kind != "attribute"), K c := fun c hMem =>
    hClosed.part hNode (List.mem_filter.mp hMem).left
  rw [requirementOf]
  generalize n.parts.filter (·.kind != "attribute") = parts at hParts ⊢
  split
  · next bound first rest hLast hBefore =>
    have hBefore : ∀ c ∈ first :: rest, K c := fun c hMem =>
      hParts c (List.dropLast_subset parts (hBefore ▸ hMem))
    have hLeft : Traced src K ((first :: rest).foldlM (constrainedStep src) none) :=
      traced_foldlM (fun c hMem found => traced_constrainedStep hClosed found (hBefore c hMem)) none
    refine hLeft.bind fun left _ => ?_
    split
    · exact traced_error (hBefore first List.mem_cons_self)
    · have hRight : Traced src K (typeAt src bound) :=
        traced_typeAt hClosed (hParts bound (List.mem_of_getLast? hLast))
      exact hRight.bind fun _ _ => trivial
  · exact traced_error hNode

theorem traced_whereClauseIn {n : Node} (hNode : K n) : Traced src K (whereClauseIn src n) := by
  have hAll : Traced src K ((constraintsIn n).mapM (requirementOf src)) :=
    traced_mapM fun m hMem => traced_requirementOf hClosed (closed_constraintsIn hClosed hNode hMem)
  exact hAll.bind fun _ _ => trivial

theorem traced_whereClauseOf {n : Node} (hNode : K n) : Traced src K (whereClauseOf src n) := by
  rw [whereClauseOf]
  split
  · exact traced_ok _
  · next clause hFound =>
    exact (traced_whereClauseIn hClosed
      (hClosed n hNode clause (List.mem_of_find?_eq_some hFound))).map _

/-! ## Accessors -/

theorem traced_accessorOf (kind : String) {n : Node} (hNode : K n) :
    Traced src K (accessorOf src kind n) := by
  have hSpecifier : ∀ specifier,
      (if isSpecifier n then some n else n.parts.find? isSpecifier) = some specifier →
        K specifier := by
    intro specifier hFound
    split at hFound
    · cases hFound
      exact hNode
    · exact hClosed.part hNode (List.mem_of_find?_eq_some hFound)
  rw [accessorOf]
  dsimp only
  generalize (if isSpecifier n then some n else n.parts.find? isSpecifier) = specifier
    at hSpecifier ⊢
  cases specifier with
  | none => exact trivial
  | some specifier =>
    exact (traced_effectsOf hClosed (hSpecifier specifier rfl)).bind fun _ _ => trivial

theorem traced_accessorBlockOf {n : Node} (hNode : K n) :
    Traced src K (accessorBlockOf src n) := by
  refine Meets.bind (Q := fun _ => True) (traced_mapM fun pair hMem => ?_) fun accessors _ => ?_
  · obtain ⟨part, hPart, hPair⟩ := List.mem_filterMap.mp hMem
    obtain ⟨kind, -, rfl⟩ := Option.map_eq_some_iff.mp hPair
    exact traced_accessorOf hClosed kind (hClosed.part hNode hPart)
  · split
    · exact traced_ok _
    · exact traced_ok _

end

end SwiftDerive.Reading
