import SwiftDerive.Proofs.Reading.Comments

/-! # Bodies

What stands inside a body is text to the reader. Emptying the bodies of a tree is a thinning that leaves
nothing out elsewhere, so two trees with the same nodes outside of bodies are read alike.
-/

namespace SwiftDerive.Grammar.Node

set_option autoImplicit false

open Reading

inductive SameOutsideBodies : Node → Node → Prop where
  | body {n : Node} (hBody : n.isBody = true) (children : List Node) :
    SameOutsideBodies n { n with children }
  | node {n : Node} {children : List Node} (hLength : n.children.length = children.length)
      (hChildren : ∀ pair ∈ n.children.zip children, SameOutsideBodies pair.1 pair.2) :
    SameOutsideBodies n { n with children }

mutual

def emptied (n : Node) : Node :=
  match n with
  | ⟨kind, named, missing, isError, hasError, start, stop, children⟩ =>
    ⟨kind, named, missing, isError, hasError, start, stop,
      if bodyTextKinds.contains kind then [] else emptiedAll children⟩

def emptiedAll : List Node → List Node
  | [] => []
  | n :: ns => n.emptied :: emptiedAll ns

end

theorem emptiedAll_eq_map (ns : List Node) : emptiedAll ns = ns.map emptied := by
  induction ns with
  | nil => rfl
  | cons n ns ih => rw [emptiedAll, ih, List.map_cons]

theorem emptied_eq (n : Node) :
    n.emptied = { n with children := if n.isBody then [] else n.children.map emptied } := by
  cases n
  rw [emptied, emptiedAll_eq_map]
  rfl

theorem emptied_children {n : Node} (hBody : n.isBody = false) :
    n.emptied.children = n.children.map emptied := by
  rw [emptied_eq, hBody, if_neg Bool.false_ne_true]

theorem emptied_eq_emptied_iff (n : Node) (children : List Node) :
    n.emptied = ({ n with children } : Node).emptied ↔
      n.isBody = true ∨ n.children.map emptied = children.map emptied := by
  have hOther : ({ n with children } : Node).isBody = n.isBody := rfl
  rw [emptied_eq, emptied_eq { n with children }, hOther, Node.mk.injEq]
  cases n.isBody with
  | true => simp
  | false => simp

theorem sameOutsideBodies_iff {n m : Node} : SameOutsideBodies n m ↔ n.emptied = m.emptied := by
  constructor
  · intro hSame
    induction hSame with
    | @body n hBody children => exact (emptied_eq_emptied_iff n children).mpr (.inl hBody)
    | @node n children hLength _ ih =>
      exact (emptied_eq_emptied_iff n children).mpr
        (.inr ((map_eq_map_iff_zip emptied n.children children).mpr ⟨hLength, ih⟩))
  · induction n using children_induction generalizing m with
    | step n ih =>
      intro hEmptied
      have hFields : m = { n with children := m.children } := by
        rw [emptied_eq, emptied_eq m, Node.mk.injEq] at hEmptied
        cases m
        simp_all
      rw [hFields] at hEmptied ⊢
      rcases (emptied_eq_emptied_iff n m.children).mp hEmptied with hBody | hImages
      · exact .body hBody m.children
      · obtain ⟨hLength, hPairs⟩ := (map_eq_map_iff_zip emptied n.children m.children).mp hImages
        refine .node hLength fun pair hMem => ?_
        exact ih pair.1 (List.of_mem_zip hMem).left (hPairs pair hMem)

end SwiftDerive.Grammar.Node

namespace SwiftDerive.Reading

set_option autoImplicit false

open Grammar Grammar.Node

/-! ## Thinning that leaves nothing out -/

section

variable {g : Node → Node} (h : Thinning g fun _ => true)
include h

theorem Thinning.children_of_keeping {n : Node} (hBody : n.isBody = false) :
    (g n).children = n.children.map g := by
  rw [h.children n hBody, thin, List.filter_true]

theorem Thinning.undisturbed_of_keeping (n : Node) : Undisturbed g n := by
  constructor
  · intro hKind src
    rw [h.children_of_keeping (isBody_of_isOf hKind (by decide)), functionName?_eq,
      functionName?_eq, h.behind?_map, Option.map_map]
    simp only [Function.comp_def, h.text]
  · intro hKind
    rw [h.children_of_keeping (isBody_of_kind hKind (by decide)), optionalMark?_eq,
      optionalMark?_eq, h.behind?_map, Option.bind_map]
    simp only [Function.comp_def, h.isOf, h.kind]
  · intro hKind
    rw [h.children_of_keeping (isBody_of_kind hKind (by decide)), List.getLast?_map, Option.any_map]
    simp only [h.kind]

end

/-! ## Emptied bodies -/

theorem thinning_emptied : Thinning emptied fun _ => true where
  kind n := by rw [emptied_eq]
  named n := by rw [emptied_eq]
  missing n := by rw [emptied_eq]
  start n := by rw [emptied_eq]
  stop n := by rw [emptied_eq]
  children n hBody := by rw [emptied_children hBody, thin, List.filter_true]
  comments n hDropped := absurd hDropped Bool.noConfusion

theorem parseSourceFile_emptied (text : String) {tree : Node} (hTree : tree.hasError = false)
    (hRoot : tree.isBody = false) : parseSourceFile text tree.emptied = parseSourceFile text tree := by
  have hFlag : tree.emptied.hasError = false := by rw [emptied_eq, hTree]
  refine thinning_emptied.parseSourceFile text hTree hFlag (thinning_emptied.parts hRoot) ?_
  exact fun n _ m _ => thinning_emptied.undisturbed_of_keeping m

/-- A source file is read the same whatever stands inside its bodies. -/
theorem parseSourceFile_sameOutsideBodies (text : String) {tree other : Node}
    (hSame : SameOutsideBodies tree other) (hTree : tree.hasError = false)
    (hOther : other.hasError = false) (hRoot : tree.isBody = false) :
    parseSourceFile text tree = parseSourceFile text other := by
  have hEmptied : tree.emptied = other.emptied := sameOutsideBodies_iff.mp hSame
  have hOtherRoot : other.isBody = false := by
    cases hSame with
    | body => exact hRoot
    | node => exact hRoot
  rw [← parseSourceFile_emptied text hTree hRoot, hEmptied]
  exact parseSourceFile_emptied text hOther hOtherRoot

def meterText : String :=
  "struct Meter \x7b\n  var level: Int \x7b 1 \x7d\n  func read() \x7b func inner() \x7b\x7d \x7d\n\x7d"

def meterTree (getter body : List Node) : Node :=
  ⟨"source_file", true, false, false, false, 0, 73,
    [⟨"class_declaration", true, false, false, false, 0, 73,
      [token "struct" false 0 6, token "type_identifier" true 7 12,
       ⟨"class_body", true, false, false, false, 13, 73,
        [⟨"property_declaration", true, false, false, false, 17, 37,
          [token "value_binding_pattern" true 17 20, token "pattern" true 21 26,
           ⟨"type_annotation", true, false, false, false, 26, 31,
            [token ":" false 26 27,
             ⟨"user_type", true, false, false, false, 28, 31, [token "type_identifier" true 28 31]⟩]⟩,
           ⟨"computed_property", true, false, false, false, 32, 37,
            [⟨"statements", true, false, false, false, 34, 35, getter⟩]⟩]⟩,
         ⟨"function_declaration", true, false, false, false, 40, 71,
          [token "func" false 40 44, token "simple_identifier" true 45 49, token "(" false 49 50,
           token ")" false 50 51,
           ⟨"function_body", true, false, false, false, 52, 71, body⟩]⟩]⟩]⟩]⟩

theorem parseSourceFile_sameOutsideBodies_meter :
    let inner : Node := ⟨"function_declaration", true, false, false, false, 54, 69,
      [token "func" false 54 58, token "simple_identifier" true 59 64]⟩
    SameOutsideBodies (meterTree [] []) (meterTree [token "computed_getter" true 34 35] [inner]) ∧
      (meterTree [] []).hasError = false ∧
      (meterTree [token "computed_getter" true 34 35] [inner]).hasError = false ∧
      (meterTree [] []).isBody = false ∧
      parseSourceFile meterText (meterTree [] []) =
        parseSourceFile meterText (meterTree [token "computed_getter" true 34 35] [inner]) := by
  intro inner
  have hSame : SameOutsideBodies (meterTree [] [])
      (meterTree [token "computed_getter" true 34 35] [inner]) := sameOutsideBodies_iff.mpr rfl
  have hRoot : (meterTree [] []).isBody = false := by decide
  exact ⟨hSame, rfl, rfl, hRoot, parseSourceFile_sameOutsideBodies meterText hSame rfl rfl hRoot⟩

end SwiftDerive.Reading
