import SwiftDerive.Proofs.Reading.Positions
import SwiftDerive.Proofs.TypeText.Formed

/-! # The form of types that are read

Whatever the tree, a reading that succeeds gives types in form. Each reader keeps the form because the
types that it puts together have it.
-/

namespace SwiftDerive

set_option autoImplicit false

structure Effects.Formed (e : Effects) : Prop where
  throwing : e.thrown ≠ none → e.isThrowing = true
  thrown : TypeRef.AllFormed e.thrown.toList

end SwiftDerive

namespace SwiftDerive.Reading

set_option autoImplicit false

open Grammar Grammar.Node TypeRef

abbrev Gives {α : Type} (Q : α → Prop) (x : Except ParseError α) : Prop :=
  Meets (fun _ => True) Q x

theorem Gives.of_eq_ok {α : Type} {Q : α → Prop} {x : Except ParseError α} (h : Gives Q x) {a : α}
    (hRead : x = .ok a) : Q a := by
  subst hRead
  exact h

theorem gives_error {α : Type} {Q : α → Prop} (e : ParseError) :
    Gives Q (.error e : Except ParseError α) := trivial

structure TypeReading.Formed (r : TypeReading) : Prop where
  types : Gives AllFormed r.types
  element : Gives TupleElement.Formed r.element
  elements : Gives (fun es => ∀ e ∈ es, e.Formed) r.elements
  type : Gives TypeRef.Formed r.type

section

variable (src : Source)

/-! ## Types -/

theorem formed_firstType (n : Node) {ts : List TypeRef} (h : AllFormed ts) :
    Gives TypeRef.Formed (firstType src n ts) := by
  cases ts with
  | nil => exact gives_error _
  | cons t ts => exact h t List.mem_cons_self

theorem formed_typeStep {run : TypeRun} (hRun : AllFormed run.types) {r : ReadNode}
    (hType : Gives TypeRef.Formed r.reading.type) :
    Gives (AllFormed ·.types) (TypeRun.step src run r) := by
  rw [TypeRun.step]
  split
  · exact hRun
  · split
    · cases hRead : r.reading.type with
      | ok t =>
        have hFormed := (hType.of_eq_ok hRead).attributedWith run.specifiers
        exact List.forall_mem_append.mpr ⟨hRun, List.forall_mem_singleton.mpr hFormed⟩
      | error e => exact gives_error e
    · split
      · exact forall_mem_modifyLast hRun fun t hFormed => formed_optional hFormed true
      · split
        · exact hRun
        · exact hRun

theorem formed_typesAmong {nodes : List ReadNode}
    (hTypes : ∀ r ∈ nodes, Gives TypeRef.Formed r.reading.type) :
    Gives AllFormed (typesAmong src nodes) := by
  have hRun : Gives (AllFormed ·.types) (nodes.foldlM (TypeRun.step src) ⟨[], []⟩) :=
    Meets.foldlM (fun r hMem run hRun => formed_typeStep src hRun (hTypes r hMem))
      (List.forall_mem_nil _)
  exact hRun.map fun run hFormed => hFormed

theorem formed_noEffects : Effects.empty.Formed := by
  constructor
  · exact fun hThrown => absurd rfl hThrown
  · exact List.forall_mem_nil _

theorem formed_effectsAmong {nodes : List ReadNode}
    (hTypes : ∀ r ∈ nodes, Gives AllFormed r.reading.types) :
    Gives Effects.Formed (effectsAmong src nodes) := by
  refine Meets.foldlM (fun r hMem effects hBefore => ?_) formed_noEffects
  split
  · exact ⟨hBefore.throwing, hBefore.thrown⟩
  · split
    · cases hRead : r.reading.types with
      | ok types =>
        have hFormed := (hTypes r hMem).of_eq_ok hRead
        -- One step sets the keyword and the thrown type together.
        refine ⟨fun _ => rfl, fun t hThrown => ?_⟩
        exact hFormed t (List.mem_of_mem_head? (Option.mem_toList.mp hThrown))
      | error e => exact gives_error e
    · exact hBefore

theorem formed_elementOf (n : Node) (children : List ReadNode)
    {types : Except ParseError (List TypeRef)} (hTypes : Gives AllFormed types) :
    Gives TupleElement.Formed (elementOf src n children types) := by
  refine hTypes.bind fun ts hFormed => (formed_firstType src n hFormed).bind fun t hType => ?_
  -- The names are those of one list, so without a first there is no second.
  refine ⟨fun hSecond hLabel => hSecond ?_, hType⟩
  rw [List.getElem?_eq_none_iff] at hLabel ⊢
  exact Nat.le_succ_of_le hLabel

theorem formed_plainElement {t : TypeRef} (h : t.Formed) : (plainElement t).Formed :=
  ⟨fun hSecond => absurd rfl hSecond, h⟩

theorem formed_elementsOf (n : Node) {children : List ReadNode}
    {types : Except ParseError (List TypeRef)} {element : Except ParseError (TupleElement TypeRef)}
    (hTypes : Gives AllFormed types) (hElement : Gives TupleElement.Formed element)
    (hItems : ∀ r ∈ children, Gives TupleElement.Formed r.reading.element) :
    Gives (fun es => ∀ e ∈ es, e.Formed) (elementsOf n children types element) := by
  rw [elementsOf]
  split
  · exact hElement.map fun e hFormed => List.forall_mem_singleton.mpr hFormed
  · dsimp only
    split
    · exact hTypes.map fun ts hFormed =>
        List.forall_mem_map.mpr fun t hMem => formed_plainElement (hFormed t hMem)
    · exact Meets.mapM fun r hMem => hItems r (List.mem_filter.mp hMem).left

theorem formed_tupleOf {es : List (TupleElement TypeRef)} (h : ∀ e ∈ es, e.Formed) :
    (tupleOf es).Formed := by
  unfold tupleOf
  split
  · exact (List.forall_mem_singleton.mp h).type
  · next hOther =>
    apply formed_tuple h
    rintro ⟨type, label, secondName, variadic⟩ hOne ⟨hLabel, hVariadic⟩
    dsimp only at hLabel hVariadic
    subst hLabel hVariadic
    exact hOther type secondName hOne

theorem formed_pathStep {path : Option TypeRef} (hPath : AllFormed path.toList) {r : ReadNode}
    (hTypes : Gives AllFormed r.reading.types) :
    Gives (AllFormed ·.toList) (pathStep src path r) := by
  unfold pathStep
  split
  · exact List.forall_mem_singleton.mpr (formed_named _ (List.forall_mem_nil _))
  · have hBase := List.forall_mem_singleton.mp hPath
    refine List.forall_mem_singleton.mpr ?_
    split
    · exact formed_metatype hBase _
    · exact formed_member hBase _ (List.forall_mem_nil _)
  · have hBase := List.forall_mem_singleton.mp hPath
    exact hTypes.map fun types hArguments =>
      List.forall_mem_singleton.mpr (hBase.withArguments hArguments)
  · exact hPath

theorem formed_functionOf (n : Node) {children : List ReadNode}
    (hChildren : ∀ r ∈ children, r.reading.Formed) :
    Gives TypeRef.Formed (functionOf src n children) := by
  rw [functionOf]
  split
  · exact gives_error _
  · next arguments rest hParts =>
    have hMem : arguments ∈ children := by
      have hFiltered : arguments ∈ children.filter ReadNode.isPart := hParts ▸ List.mem_cons_self
      exact (List.mem_filter.mp hFiltered).left
    have hArguments := hChildren arguments hMem
    have hPlain : Gives (fun es => ∀ e ∈ es, e.Formed)
        (arguments.reading.type.map fun t => [plainElement t]) :=
      hArguments.type.map fun t hFormed =>
        List.forall_mem_singleton.mpr (formed_plainElement hFormed)
    have hBehind : Gives AllFormed
        (typesAmong src (children.filter fun r => arguments.node.stop ≤ r.node.start)) :=
      formed_typesAmong src fun r hFiltered => (hChildren r (List.mem_filter.mp hFiltered).left).type
    have hEffects := formed_effectsAmong src fun r hMem => (hChildren r hMem).types
    have hFunction {parameters : List (TupleElement TypeRef)}
        (hParameters : ∀ e ∈ parameters, e.Formed) {types : List TypeRef} (hTypes : AllFormed types)
        {result : TypeRef} (hLast : types.getLast? = some result) {effects : Effects}
        (hFormed : effects.Formed) : (TypeRef.function parameters result effects.isAsync
          effects.isThrowing effects.thrown).Formed := by
      have hResult := hTypes result (List.mem_of_getLast? hLast)
      exact formed_function hParameters hResult _ hFormed.throwing hFormed.thrown
    dsimp only
    split
    case isTrue =>
      refine hArguments.elements.bind fun parameters hParameters => hBehind.bind fun types hTypes => ?_
      split
      · exact gives_error _
      · next result hLast =>
        exact hEffects.bind fun effects hFormed => hFunction hParameters hTypes hLast hFormed
    case isFalse =>
      refine hPlain.bind fun parameters hParameters => hBehind.bind fun types hTypes => ?_
      split
      · exact gives_error _
      · next result hLast =>
        exact hEffects.bind fun effects hFormed => hFunction hParameters hTypes hLast hFormed

theorem formed_compositionOf (n : Node) {types : List TypeRef} (h : AllFormed types) :
    Gives TypeRef.Formed (compositionOf src n types) := by
  unfold compositionOf
  extract_lets members
  have hMembers : AllFormed members := by
    refine List.forall_mem_flatMap.mpr fun t hMem => ?_
    split
    · exact fun p hPart => (h _ hMem).part hPart
    · exact List.forall_mem_singleton.mpr (h t hMem)
  clear_value members
  split
  · exact gives_error _
  · next specifier base rest =>
    obtain ⟨hHead, hRest⟩ := List.forall_mem_cons.mp hMembers
    split
    -- The keyword moves before the composition and leaves its bare type there.
    · have hBase := hHead.part List.mem_cons_self
      have hWhole := formed_composition (List.forall_mem_cons.mpr ⟨hBase, hRest⟩)
      exact formed_attributed (List.cons_ne_nil _ _) hWhole rfl
    · exact formed_composition hMembers
  · exact formed_composition hMembers

theorem formed_typeOf (n : Node) {children : List ReadNode}
    (hChildren : ∀ r ∈ children, r.reading.Formed)
    {types : Except ParseError (List TypeRef)} {element : Except ParseError (TupleElement TypeRef)}
    {elements : Except ParseError (List (TupleElement TypeRef))}
    (hTypes : Gives AllFormed types)
    (hElement : Gives TupleElement.Formed element)
    (hElements : Gives (fun es => ∀ e ∈ es, e.Formed) elements) :
    Gives TypeRef.Formed (typeOf src n children types element elements) := by
  have hName (name : String) : (TypeRef.named name []).Formed :=
    formed_named name (List.forall_mem_nil _)
  have hFirst {f : TypeRef → TypeRef} (hStep : ∀ t, t.Formed → (f t).Formed) :
      Gives TypeRef.Formed (do return f (← firstType src n (← types))) :=
    hTypes.bind fun ts hFormed => (formed_firstType src n hFormed).bind fun t hType => hStep t hType
  rw [typeOf]
  split
  · exact hFirst fun t hType => hType.attributedWith _
  · split
    · exact hName _
    · exact hName _
    · have hPath : Gives (AllFormed ·.toList)
          ((children.filter ReadNode.isPart).foldlM (pathStep src) none) :=
        Meets.foldlM (fun r hMem path hBefore =>
          formed_pathStep src hBefore (hChildren r (List.mem_filter.mp hMem).left).types)
          (List.forall_mem_nil _)
      apply hPath.bind
      intro path hFormed
      split
      · next t =>
        have hType : t.Formed := List.forall_mem_singleton.mp hFormed
        exact hType
      · exact gives_error _
    · exact hElements.map fun es hFormed => formed_tupleOf hFormed
    · exact hElement.map fun e hFormed => formed_tupleOf (List.forall_mem_singleton.mpr hFormed)
    · exact formed_functionOf src n hChildren
    · exact hFirst fun t hType => formed_array hType
    · apply hTypes.bind
      intro ts hFormed
      split
      · next key value rest =>
        obtain ⟨hKey, hBehind⟩ := List.forall_mem_cons.mp hFormed
        exact formed_dictionary hKey (hBehind value List.mem_cons_self)
      · exact gives_error _
    · apply hFirst
      intro t hType
      exact List.foldlRecOn _ _ hType fun t hBefore _ _ => formed_optional hBefore false
    · exact hFirst fun t hType => formed_metatype hType _
    · exact hTypes.bind fun ts hFormed => formed_compositionOf src n hFormed
    · exact hName _

theorem formed_readNode (n : Node) : (readNode src n).Formed := by
  induction n using children_induction with
  | step n ih =>
    have hChildren : ∀ r ∈ readNodes src n.children, r.reading.Formed := by
      intro r hMem
      rw [readNodes_eq_map, List.mem_map] at hMem
      obtain ⟨c, hChild, rfl⟩ := hMem
      exact ih c hChild
    have hTypes : Gives AllFormed (typesAmong src (readNodes src n.children)) :=
      formed_typesAmong src fun r hMem => (hChildren r hMem).type
    have hElement := formed_elementOf src n (readNodes src n.children) hTypes
    have hElements := formed_elementsOf n hTypes hElement fun r hMem => (hChildren r hMem).element
    rw [readNode_eq]
    constructor
    · exact hTypes
    · exact hElement
    · exact hElements
    · exact formed_typeOf src n hChildren hTypes hElement hElements

theorem formed_typeAt (n : Node) : Gives TypeRef.Formed (typeAt src n) :=
  (formed_readNode src n).type

theorem formed_typesIn (ns : List Node) : Gives AllFormed (typesIn src ns) := by
  apply formed_typesAmong
  intro r hMem
  rw [readNodes_eq_map, List.mem_map] at hMem
  obtain ⟨n, -, rfl⟩ := hMem
  exact formed_typeAt src n

theorem formed_effectsOf (n : Node) : Gives Effects.Formed (effectsOf src n) := by
  apply formed_effectsAmong
  intro r hMem
  rw [readNodes_eq_map, List.mem_map] at hMem
  obtain ⟨c, -, rfl⟩ := hMem
  exact (formed_readNode src c).types

end

end SwiftDerive.Reading
