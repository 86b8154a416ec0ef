import SwiftDerive.Proofs.Except
import SwiftDerive.Proofs.Reading.Thinning

/-! # Types in thinned trees

Every reading of a node is the same in a thinned tree. Of a body only the reading as a type is asked
for, and it is the text of the body.
-/

namespace SwiftDerive.Reading

set_option autoImplicit false

open Grammar

structure SameReading (src : Source) (n m : Node) : Prop where
  type : (readNode src m).type = (readNode src n).type
  all : n.isBody = false → readNode src m = readNode src n

section

variable (src : Source)

theorem filter_readNodes (p : Node → Bool) (ns : List Node) :
    (readNodes src ns).filter (fun r => p r.node) = readNodes src (ns.filter p) := by
  rw [readNodes_eq_map, readNodes_eq_map, List.filter_map]
  rfl

theorem any_readNodes (p : Node → Bool) (ns : List Node) :
    (readNodes src ns).any (fun r => p r.node) = ns.any p := by
  rw [readNodes_eq_map, List.any_map]
  rfl

theorem foldlM_readNodes {σ : Type} (step : σ → ReadNode → Except ParseError σ) (s : σ)
    (ns : List Node) : (readNodes src ns).foldlM step s =
      ns.foldlM (fun s n => step s ⟨n, readNode src n⟩) s := by
  rw [readNodes_eq_map, List.foldlM_map]

def isItem (n : Node) : Bool := n.isPart && n.kind == "tuple_type_item"

theorem isPart_of_isItem {n : Node} (hItem : isItem n = true) : n.isPart = true :=
  ((Bool.and_eq_true _ _).mp hItem).left

theorem kind_of_isItem {n : Node} (hItem : isItem n = true) : n.kind = "tuple_type_item" :=
  beq_iff_eq.mp ((Bool.and_eq_true _ _).mp hItem).right

theorem elementsOf_readNodes (n : Node) (ns : List Node)
    (types : Except ParseError (List TypeRef))
    (element : Except ParseError (TupleElement TypeRef)) :
    elementsOf n (readNodes src ns) types element =
      if n.kind == "tuple_type_item" then element.map ([·])
      else if (ns.filter isItem).isEmpty then types.map (List.map plainElement)
      else (readNodes src (ns.filter isItem)).mapM (·.reading.element) := by
  have hItems : (readNodes src ns).filter (fun r => r.isPart && r.node.kind == "tuple_type_item") =
      readNodes src (ns.filter isItem) := filter_readNodes src isItem ns
  have hEmpty (ms : List Node) : (readNodes src ms).isEmpty = ms.isEmpty := by
    rw [readNodes_eq_map, List.isEmpty_map]
  simp only [elementsOf, hItems, hEmpty]

theorem step_of_isComment {n : Node} (hComment : n.isComment = true) (run : TypeRun) :
    TypeRun.step src run ⟨n, readNode src n⟩ = .ok run := by
  have hSpecifier : n.isOf specifierKinds = false := Node.isOf_of_isComment hComment (by decide)
  have hType : n.isOf typeKinds = false := Node.isOf_of_isComment hComment (by decide)
  have hMark : (n.kind == "!") = false := Node.kind_of_isComment hComment (by decide) (by decide)
  simp [TypeRun.step, ReadNode.isPart, hSpecifier, hType, hMark, Node.isPart_of_isComment hComment]

theorem type_of_isBody {n : Node} (hBody : n.isBody = true) :
    (readNode src n).type = .ok (.named (src.collapsed n) []) := by
  rw [readNode_eq]
  rcases Node.kind_of_isBody hBody with hKind | hKind
  · simp only [readingOf, typeOf, hKind]
    rfl
  · simp only [readingOf, typeOf, hKind]
    rfl

theorem endsIn_readNodes (kind : String) (ns : List Node) :
    (readNodes src ns).getLast?.any (·.node.kind == kind) = ns.getLast?.any (·.kind == kind) := by
  rw [readNodes_eq_map, List.getLast?_map]
  cases ns.getLast? <;> rfl

end

namespace Thinning

variable {g : Node → Node} {keep : Node → Bool} (h : Thinning g keep) (src : Source)
include h

theorem firstType (n : Node) (ts : List TypeRef) :
    Reading.firstType src (g n) ts = Reading.firstType src n ts := by
  cases ts with
  | nil => exact congrArg Except.error (h.error src n)
  | cons => rfl

theorem specifiersOf {n : Node} (hBody : n.isBody = false) :
    Reading.specifiersOf src (g n) = Reading.specifiersOf src n := by
  simp only [Reading.specifiersOf, h.kind, h.parts hBody]
  by_cases hKind : (n.kind == "parameter_modifier") = true
  · simp [hKind, h.collapsed]
  · cases hParts : n.parts with
    | nil => simp [hKind, h.collapsed]
    | cons => simp [hKind, h.collapsed, Function.comp_def]

/-! ## The types and effects in a row of nodes -/

section Rows

variable {ns : List Node}
  (hSame : ∀ n ∈ ns, n.isComment = false → SameReading src n (g n))
include hSame

theorem typesIn : typesIn src (thin g keep ns) = Reading.typesIn src ns := by
  rw [Reading.typesIn, Reading.typesIn, typesAmong, typesAmong, foldlM_readNodes,
    foldlM_readNodes]
  refine congrArg (Except.map TypeRun.types) (h.foldlM_thin ?_ (fun n => step_of_isComment src) _)
  intro n hMem hComment run
  simp only [TypeRun.step, ReadNode.isPart, h.isOf, h.kind, h.named, h.isPart,
    (hSame n hMem hComment).type]
  by_cases hSpecifier : n.isOf specifierKinds = true
  · rw [if_pos hSpecifier, if_pos hSpecifier,
      h.specifiersOf src (Node.isBody_of_isOf hSpecifier (by decide))]
  · rw [if_neg hSpecifier, if_neg hSpecifier]
    rfl

theorem effectsAmong : effectsAmong src (readNodes src (thin g keep ns)) =
    Reading.effectsAmong src (readNodes src ns) := by
  rw [Reading.effectsAmong, Reading.effectsAmong, foldlM_readNodes, foldlM_readNodes]
  refine h.foldlM_thin ?_ ?_ _
  · intro n hMem hComment effects
    simp only [h.kind, h.isOf, h.text]
    by_cases hThrows : n.isOf ["throws", "rethrows"] = true
    · rw [(hSame n hMem hComment).all (Node.isBody_of_isOf hThrows (by decide))]
    · rw [if_neg hThrows, if_neg hThrows]
  · intro n hComment effects
    have hAsync : (n.kind == "async") = false :=
      Node.kind_of_isComment hComment (by decide) (by decide)
    have hThrows : n.isOf ["throws", "rethrows"] = false :=
      Node.isOf_of_isComment hComment (by decide)
    simp only [hAsync, hThrows, Bool.false_eq_true, if_false]
    rfl

/-! ## A node as a place of a tuple, and as the places of one -/

omit hSame in
theorem elementOf (ns : List Node) (n : Node) (types : Except ParseError (List TypeRef)) :
    Reading.elementOf src (g n) (readNodes src (thin g keep ns)) types =
      Reading.elementOf src n (readNodes src ns) types := by
  have hNames : ((readNodes src (thin g keep ns)).filter (·.node.isOf nameKinds)).map
      (fun r => src.text r.node) =
        ((readNodes src ns).filter (·.node.isOf nameKinds)).map fun r => src.text r.node := by
    rw [filter_readNodes src (Node.isOf nameKinds), filter_readNodes src (Node.isOf nameKinds),
      h.filter_isOf (by decide)]
    simp only [readNodes_eq_map, List.map_map, Function.comp_def, h.text]
  have hVariadic : (readNodes src (thin g keep ns)).any (·.node.kind == "...") =
      (readNodes src ns).any (·.node.kind == "...") := by
    rw [any_readNodes src (·.kind == "..."), any_readNodes src (·.kind == "..."),
      h.any_kind (by decide) (by decide)]
  simp only [Reading.elementOf, hNames, hVariadic, h.firstType]

theorem elementsOf (n : Node) (types : Except ParseError (List TypeRef))
    (element : Except ParseError (TupleElement TypeRef)) :
    Reading.elementsOf (g n) (readNodes src (thin g keep ns)) types element =
      Reading.elementsOf n (readNodes src ns) types element := by
  have hItems : (thin g keep ns).filter isItem = (ns.filter isItem).map g := by
    refine h.filter_thin (fun n => ?_) fun n hComment => ?_
    · simp only [isItem, h.isPart, h.kind]
    · simp only [isItem, Node.isPart_of_isComment hComment, Bool.false_and]
  have hElements : (readNodes src ((ns.filter isItem).map g)).mapM (·.reading.element) =
      (readNodes src (ns.filter isItem)).mapM (·.reading.element) := by
    simp only [readNodes_eq_map, List.mapM_map]
    refine mapM_congr fun c hFiltered => ?_
    obtain ⟨hMem, hItem⟩ := List.mem_filter.mp hFiltered
    have hBody : c.isBody = false := Node.isBody_of_kind (kind_of_isItem hItem) (by decide)
    exact congrArg TypeReading.element
      ((hSame c hMem (Node.isComment_of_isPart (isPart_of_isItem hItem))).all hBody)
  rw [elementsOf_readNodes, elementsOf_readNodes, h.kind, hItems, hElements, List.isEmpty_map]

/-! ## A node as a type -/

theorem path : ((readNodes src (thin g keep ns)).filter ReadNode.isPart).foldlM (pathStep src) none =
    ((readNodes src ns).filter ReadNode.isPart).foldlM (pathStep src) none := by
  have hParts (ms : List Node) : (readNodes src ms).filter ReadNode.isPart =
      readNodes src (ms.filter Node.isPart) := filter_readNodes src Node.isPart ms
  rw [hParts, hParts, h.filter_isPart_thin, foldlM_readNodes, foldlM_readNodes, List.foldlM_map]
  refine foldlM_congr (fun c hFiltered path => ?_) none
  obtain ⟨hMem, hPart⟩ := List.mem_filter.mp hFiltered
  simp only [pathStep, h.kind, h.text]
  split
  · rfl
  · rfl
  · rename_i hKind
    have hBody : c.isBody = false := Node.isBody_of_kind hKind (by decide)
    rw [(hSame c hMem (Node.isComment_of_isPart hPart)).all hBody]
  · rfl

theorem functionOf (n : Node) : Reading.functionOf src (g n) (readNodes src (thin g keep ns)) =
    Reading.functionOf src n (readNodes src ns) := by
  have hParts (ms : List Node) : (readNodes src ms).filter ReadNode.isPart =
      readNodes src (ms.filter Node.isPart) := filter_readNodes src Node.isPart ms
  have hBehind (stop : Nat) (ms : List Node) :
      (readNodes src ms).filter (fun r => decide (stop ≤ r.node.start)) =
        readNodes src (ms.filter fun n => decide (stop ≤ n.start)) :=
    filter_readNodes src (fun n => decide (stop ≤ n.start)) ms
  simp only [Reading.functionOf, hParts, h.filter_isPart_thin, h.effectsAmong src hSame, h.error]
  cases hFound : ns.filter Node.isPart with
  | nil => rfl
  | cons arguments rest =>
    obtain ⟨hMem, hPart⟩ := List.mem_filter.mp (hFound ▸ List.mem_cons_self : arguments ∈ _)
    have hArguments := hSame arguments hMem (Node.isComment_of_isPart hPart)
    have hElements : arguments.isOf ["tuple_type", "tuple_type_item"] = true →
        (readNode src (g arguments)).elements = (readNode src arguments).elements := fun hTuple =>
      congrArg TypeReading.elements (hArguments.all (Node.isBody_of_isOf hTuple (by decide)))
    have hTypes : typesAmong src
        (readNodes src ((thin g keep ns).filter fun n => decide (arguments.stop ≤ n.start))) =
          typesAmong src (readNodes src (ns.filter fun n => decide (arguments.stop ≤ n.start))) := by
      rw [filter_thin_comm fun n => by rw [h.start]]
      exact h.typesIn src fun n hFiltered => hSame n (List.mem_filter.mp hFiltered).left
    simp only [List.map_cons, readNodes, h.isOf, h.stop, hBehind, hArguments.type, hTypes]
    by_cases hTuple : arguments.isOf ["tuple_type", "tuple_type_item"] = true
    · rw [if_pos hTuple, if_pos hTuple, hElements hTuple]
    · rw [if_neg hTuple, if_neg hTuple]

end Rows

theorem compositionOf (n : Node) (types : List TypeRef) :
    Reading.compositionOf src (g n) types = Reading.compositionOf src n types := by
  simp only [Reading.compositionOf, h.error]

theorem typeOf {n : Node} (hBody : n.isBody = false)
    (hSame : ∀ c ∈ n.children, c.isComment = false → SameReading src c (g c))
    (hHere : Undisturbed g n) (types : Except ParseError (List TypeRef))
    (element : Except ParseError (TupleElement TypeRef))
    (elements : Except ParseError (List (TupleElement TypeRef))) :
    Reading.typeOf src (g n) (readNodes src (g n).children) types element elements =
      Reading.typeOf src n (readNodes src n.children) types element elements := by
  have hMarks (t : TypeRef) : ((readNodes src (g n).children).filter (·.node.kind == "?")).foldl
      (fun t _ => TypeRef.optional t false) t =
        ((readNodes src n.children).filter (·.node.kind == "?")).foldl
          (fun t _ => TypeRef.optional t false) t := by
    rw [filter_readNodes src (·.kind == "?"), filter_readNodes src (·.kind == "?"),
      h.children n hBody, h.filter_kind (by decide) (by decide)]
    simp only [readNodes_eq_map, List.foldl_map]
  have hPath := h.path src hSame
  have hFunction := h.functionOf src hSame n
  rw [← h.children n hBody] at hPath hFunction
  simp only [Reading.typeOf, h.kind, h.firstType, h.text, h.collapsed, h.error, hPath, hFunction,
    h.compositionOf, hMarks, endsIn_readNodes]
  split
  · rfl
  · split
    case h_10 hKind => rw [hHere.ending hKind]
    all_goals rfl

/-! ## All readings of a node -/

theorem readingOf {n : Node}
    (hSame : n.isBody = false → ∀ c ∈ n.children, c.isComment = false → SameReading src c (g c))
    (hHere : Undisturbed g n) : SameReading src n (g n) := by
  cases hBody : n.isBody with
  | false =>
    have hTypes := h.typesIn src (hSame hBody)
    have hElement := h.elementOf src n.children n
    have hElements := h.elementsOf src (hSame hBody) n
    have hType := h.typeOf src hBody (hSame hBody) hHere
    rw [Reading.typesIn, Reading.typesIn] at hTypes
    rw [← h.children n hBody] at hTypes hElement hElements
    have hAll : readNode src (g n) = readNode src n := by
      simp only [readNode_eq, Reading.readingOf, hTypes, hElement, hElements, hType]
    exact ⟨congrArg TypeReading.type hAll, fun _ => hAll⟩
  | true =>
    have hImage : (g n).isBody = true := (h.isOf Node.bodyTextKinds n).trans hBody
    refine ⟨?_, fun hNot => absurd (hBody.symm.trans hNot) Bool.noConfusion⟩
    rw [type_of_isBody src hBody, type_of_isBody src hImage, h.collapsed]

theorem readNode {n : Node} (hClear : Clear g n) : SameReading src n (g n) := by
  induction n using Node.children_induction with
  | step n ih =>
    refine h.readingOf src (fun hBody c hMem hComment => ih c hMem ?_) hClear.here
    exact hClear.child hBody hMem hComment

theorem typeAt {n : Node} (hClear : Clear g n) : typeAt src (g n) = Reading.typeAt src n :=
  (h.readNode src hClear).type

theorem typesIn_clear {ns : List Node} (hClear : ∀ n ∈ ns, n.isComment = false → Clear g n) :
    Reading.typesIn src (thin g keep ns) = Reading.typesIn src ns :=
  h.typesIn src fun n hMem hComment => h.readNode src (hClear n hMem hComment)

theorem effectsOf {n : Node} (hBody : n.isBody = false) (hClear : Clear g n) :
    effectsOf src (g n) = Reading.effectsOf src n := by
  rw [Reading.effectsOf, Reading.effectsOf, h.children n hBody]
  refine h.effectsAmong src fun c hMem hComment => h.readNode src ?_
  exact hClear.child hBody hMem hComment

end Thinning

end SwiftDerive.Reading
