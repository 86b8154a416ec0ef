import SwiftDerive.Reading.Declarations

/-! # Thinned trees

A tree is thinned by leaving out comments, and anything inside the bodies of functions. The nodes that
stay keep their kinds and their places in the text, so a reader that passes over comments and does not
look into bodies finds the same parts in both trees.
-/

namespace SwiftDerive.Grammar.Node

set_option autoImplicit false

mutual

theorem children_induction {motive : Node → Prop}
    (step : ∀ n, (∀ c ∈ n.children, motive c) → motive n) : (n : Node) → motive n
  | ⟨kind, named, missing, isError, hasError, start, stop, children⟩ =>
    step ⟨kind, named, missing, isError, hasError, start, stop, children⟩
      (children_induction_all step children)

theorem children_induction_all {motive : Node → Prop}
    (step : ∀ n, (∀ c ∈ n.children, motive c) → motive n) : (ns : List Node) → ∀ n ∈ ns, motive n
  | [], _, hMem => nomatch hMem
  | n :: ns, n', hMem => by
    rcases List.mem_cons.mp hMem with hHead | hTail
    · exact hHead ▸ children_induction step n
    · exact children_induction_all step ns n' hTail

end

def bodyTextKinds : List String := ["function_body", "statements"]

/-- Whether the node is kept as text, whatever its children are. -/
def isBody (n : Node) : Bool := n.isOf bodyTextKinds

/-- The nodes below a tree that a reader may come to: those outside of comments and bodies. -/
inductive Reaches : Node → Node → Prop where
  | itself (n : Node) : Reaches n n
  | child {n c m : Node} (hBody : n.isBody = false) (hChild : c ∈ n.children)
      (hComment : c.isComment = false) (hInner : Reaches c m) : Reaches n m

theorem Reaches.trans {n m k : Node} (hOuter : n.Reaches m) (hInner : m.Reaches k) :
    n.Reaches k := by
  induction hOuter with
  | itself n => exact hInner
  | child hBody hChild hComment _ ih => exact .child hBody hChild hComment (ih hInner)

theorem isOf_of_kind {n : Node} {kinds : List String} {kind : String} (hKind : n.kind = kind)
    (hMem : kind ∈ kinds) : n.isOf kinds = true := by
  rw [isOf, hKind, List.contains_iff_mem]
  exact hMem

theorem isOf_eq_false {n : Node} {kinds others : List String} (h : n.isOf kinds = true)
    (hDisjoint : ∀ kind ∈ kinds, kind ∉ others) : n.isOf others = false := by
  rw [isOf, List.contains_iff_mem] at h
  rw [isOf, ← Bool.not_eq_true, List.contains_iff_mem]
  exact hDisjoint n.kind h

theorem kind_of_isBody {n : Node} (h : n.isBody = true) :
    n.kind = "function_body" ∨ n.kind = "statements" := by
  simpa [isBody, isOf, bodyTextKinds] using h

theorem isBody_of_isOf {n : Node} {kinds : List String} (h : n.isOf kinds = true)
    (hKinds : ∀ kind ∈ kinds, kind ∉ bodyTextKinds) : n.isBody = false :=
  isOf_eq_false h hKinds

theorem isBody_of_kind {n : Node} {kind : String} (h : n.kind = kind)
    (hKind : kind ∉ bodyTextKinds) : n.isBody = false :=
  isOf_eq_false (isOf_of_kind h (List.mem_singleton.mpr rfl)) (by simpa using hKind)

theorem isComment_eq (n : Node) : n.isComment = n.isOf ["comment", "multiline_comment"] := by
  simp only [isComment, isOf, List.contains_cons, List.contains_nil, Bool.or_false]

theorem isOf_of_isComment {n : Node} (h : n.isComment = true) {kinds : List String}
    (hKinds : ∀ kind ∈ ["comment", "multiline_comment"], kind ∉ kinds) : n.isOf kinds = false :=
  isOf_eq_false (isComment_eq n ▸ h) hKinds

theorem kind_of_isComment {n : Node} (h : n.isComment = true) {kind : String}
    (hComment : kind ≠ "comment") (hMultiline : kind ≠ "multiline_comment") :
    (n.kind == kind) = false := by
  rw [isComment, Bool.or_eq_true, beq_iff_eq, beq_iff_eq] at h
  rw [beq_eq_false_iff_ne]
  rcases h with hKind | hKind
  · exact hKind ▸ hComment.symm
  · exact hKind ▸ hMultiline.symm

theorem isComment_of_kind {n : Node} {kind : String} (h : n.kind = kind) (hComment : kind ≠ "comment")
    (hMultiline : kind ≠ "multiline_comment") : n.isComment = false := by
  rw [isComment, h, Bool.or_eq_false_iff, beq_eq_false_iff_ne, beq_eq_false_iff_ne]
  exact ⟨hComment, hMultiline⟩

theorem isPart_of_isComment {n : Node} (h : n.isComment = true) : n.isPart = false := by
  rw [isPart, h, Bool.not_true, Bool.and_false]

theorem isComment_of_isPart {n : Node} (h : n.isPart = true) : n.isComment = false := by
  rw [isPart, Bool.and_eq_true, Bool.not_eq_true'] at h
  exact h.right

end SwiftDerive.Grammar.Node

namespace SwiftDerive.Reading

set_option autoImplicit false

open Grammar

def thin (g : Node → Node) (keep : Node → Bool) (ns : List Node) : List Node :=
  (ns.filter keep).map g

/-- A way to thin trees: every node stays as it is but for its children, of which comments may be left
out, and those of bodies may be any. -/
structure Thinning (g : Node → Node) (keep : Node → Bool) : Prop where
  kind : ∀ n, (g n).kind = n.kind
  named : ∀ n, (g n).named = n.named
  missing : ∀ n, (g n).missing = n.missing
  start : ∀ n, (g n).start = n.start
  stop : ∀ n, (g n).stop = n.stop
  children : ∀ n, n.isBody = false → (g n).children = thin g keep n.children
  comments : ∀ n, keep n = false → n.isComment = true

/-- Three things are read off the child next to another one, or off the last one. There a comment
that is left out counts. -/
structure Undisturbed (g : Node → Node) (n : Node) : Prop where
  name : n.isOf ["function_declaration", "protocol_function_declaration"] = true → ∀ src,
    functionName? src (g n).children = functionName? src n.children
  mark : n.kind = "init_declaration" → optionalMark? (g n).children = optionalMark? n.children
  ending : n.kind = "metatype" → (g n).children.getLast?.any (·.kind == "Protocol") =
    n.children.getLast?.any (·.kind == "Protocol")

def Clear (g : Node → Node) (n : Node) : Prop := ∀ m, n.Reaches m → Undisturbed g m

theorem Clear.here {g : Node → Node} {n : Node} (hClear : Clear g n) : Undisturbed g n :=
  hClear n (.itself n)

theorem Clear.below {g : Node → Node} {n m : Node} (hClear : Clear g n) (hReaches : n.Reaches m) :
    Clear g m :=
  fun m' hInner => hClear m' (hReaches.trans hInner)

theorem Clear.child {g : Node → Node} {n : Node} (hClear : Clear g n) (hBody : n.isBody = false)
    {c : Node} (hChild : c ∈ n.children) (hComment : c.isComment = false) : Clear g c :=
  hClear.below (.child hBody hChild hComment (.itself c))

theorem Clear.part {g : Node → Node} {n : Node} (hClear : Clear g n) (hBody : n.isBody = false)
    {c : Node} (hPart : c ∈ n.parts) : Clear g c := by
  obtain ⟨hChild, hPart⟩ := List.mem_filter.mp hPart
  exact hClear.child hBody hChild (Node.isComment_of_isPart hPart)

namespace Thinning

variable {g : Node → Node} {keep : Node → Bool} (h : Thinning g keep) (src : Source)
include h

/-! ## A node -/

theorem isComment (n : Node) : (g n).isComment = n.isComment := by
  simp only [Node.isComment, h.kind]

theorem isPart (n : Node) : (g n).isPart = n.isPart := by
  simp only [Node.isPart, h.named, h.isComment]

theorem isOf (kinds : List String) (n : Node) : (g n).isOf kinds = n.isOf kinds := by
  simp only [Node.isOf, h.kind]

theorem chars (n : Node) : src.chars (g n) = src.chars n := by
  simp only [Source.chars, h.start, h.stop]

theorem text (n : Node) : src.text (g n) = src.text n := by
  simp only [Source.text, h.chars]

theorem collapsed (n : Node) : src.collapsed (g n) = src.collapsed n := by
  simp only [Source.collapsed, h.text]

theorem position (n : Node) : src.position (g n) = src.position n := by
  simp only [Source.position, Source.before, h.start]

theorem raw (n : Node) : src.raw (g n) = src.raw n := by
  simp only [Source.raw, Source.lineOf, Source.before, h.start, h.chars]

theorem error (n : Node) : src.error (g n) = src.error n := by
  rw [Source.error, Source.error, Source.snippet, Source.snippet, h.missing, h.kind, h.chars,
    h.position]

/-! ## The nodes of a list -/

theorem keep_of_isComment {n : Node} (hComment : n.isComment = false) : keep n = true := by
  rw [← Bool.not_eq_false]
  intro hDropped
  exact Bool.false_ne_true (hComment.symm.trans (h.comments n hDropped))

theorem thin_cons {n : Node} (hComment : n.isComment = false) (ns : List Node) :
    thin g keep (n :: ns) = g n :: thin g keep ns := by
  rw [thin, List.filter_cons_of_pos (h.keep_of_isComment hComment), List.map_cons, thin]

section Lists

variable {ns : List Node}

theorem filter_thin {p : Node → Bool} (hSame : ∀ n, p (g n) = p n)
    (hSkip : ∀ n, n.isComment = true → p n = false) :
    (thin g keep ns).filter p = (ns.filter p).map g := by
  rw [thin, List.filter_map, List.filter_filter]
  refine congrArg (List.map g) (List.filter_congr fun n _ => ?_)
  rw [Function.comp_apply, hSame]
  cases hKeep : keep n with
  | true => exact Bool.and_true _
  | false => rw [hSkip n (h.comments n hKeep), Bool.false_and]

omit h in
theorem filter_thin_comm {p : Node → Bool} (hSame : ∀ n, p (g n) = p n) :
    (thin g keep ns).filter p = thin g keep (ns.filter p) := by
  rw [thin, thin, List.filter_map, List.filter_filter, List.filter_filter]
  refine congrArg (List.map g) (List.filter_congr fun n _ => ?_)
  rw [Function.comp_apply, hSame, Bool.and_comm]

theorem filter_isPart_thin : (thin g keep ns).filter Node.isPart = (ns.filter Node.isPart).map g :=
  h.filter_thin h.isPart fun _ => Node.isPart_of_isComment

theorem any_thin {p : Node → Bool} (hSame : ∀ n, p (g n) = p n)
    (hSkip : ∀ n, n.isComment = true → p n = false) : (thin g keep ns).any p = ns.any p := by
  have hFound : ∀ ms : List Node, ms.any p = !(ms.filter p).isEmpty := by
    intro ms
    rw [Bool.eq_iff_iff]
    simp [List.any_eq_true]
  rw [hFound, hFound, h.filter_thin hSame hSkip, List.isEmpty_map]

theorem find?_thin {p : Node → Bool} (hSame : ∀ n, p (g n) = p n)
    (hSkip : ∀ n, n.isComment = true → p n = false) :
    (thin g keep ns).find? p = (ns.find? p).map g := by
  rw [← List.head?_filter, ← List.head?_filter, h.filter_thin hSame hSkip, List.head?_map]

section Kinds

variable {kind : String} (hComment : kind ≠ "comment") (hMultiline : kind ≠ "multiline_comment")
include hComment hMultiline

theorem filter_kind :
    (thin g keep ns).filter (·.kind == kind) = (ns.filter (·.kind == kind)).map g :=
  h.filter_thin (fun n => by rw [h.kind]) fun _ hNode =>
    Node.kind_of_isComment hNode hComment hMultiline

theorem any_kind : (thin g keep ns).any (·.kind == kind) = ns.any (·.kind == kind) :=
  h.any_thin (fun n => by rw [h.kind]) fun _ hNode =>
    Node.kind_of_isComment hNode hComment hMultiline

theorem find?_kind : (thin g keep ns).find? (·.kind == kind) = (ns.find? (·.kind == kind)).map g :=
  h.find?_thin (fun n => by rw [h.kind]) fun _ hNode =>
    Node.kind_of_isComment hNode hComment hMultiline

end Kinds

theorem filter_isOf {kinds : List String}
    (hKinds : ∀ kind ∈ ["comment", "multiline_comment"], kind ∉ kinds) :
    (thin g keep ns).filter (·.isOf kinds) = (ns.filter (·.isOf kinds)).map g :=
  h.filter_thin (h.isOf kinds) fun _ hNode => Node.isOf_of_isComment hNode hKinds

/-- A run that passes over comments is the same on both lists. -/
theorem foldlM_thin {m : Type → Type} [Monad m] [LawfulMonad m] {σ : Type} {step : σ → Node → m σ}
    (hSame : ∀ n ∈ ns, n.isComment = false → ∀ s, step s (g n) = step s n)
    (hSkip : ∀ n, n.isComment = true → ∀ s, step s n = pure s) (s : σ) :
    (thin g keep ns).foldlM step s = ns.foldlM step s := by
  induction ns generalizing s with
  | nil => rfl
  | cons n ns ih =>
    have hTail := ih fun c hMem => hSame c (List.mem_cons_of_mem n hMem)
    cases hComment : n.isComment with
    | true =>
      -- The comment may be kept or not.
      have hImage : step s (g n) = pure s := hSkip (g n) (by rw [h.isComment, hComment]) s
      rw [List.foldlM_cons, hSkip n hComment s, pure_bind, ← hTail, thin, List.filter_cons]
      cases keep n with
      | true =>
        rw [if_pos rfl, List.map_cons, List.foldlM_cons, hImage, pure_bind]
        rfl
      | false => rfl
    | false =>
      rw [h.thin_cons hComment, List.foldlM_cons, List.foldlM_cons,
        hSame n List.mem_cons_self hComment]
      exact congrArg _ (funext hTail)

theorem foldl_thin {σ : Type} {step : σ → Node → σ}
    (hSame : ∀ n ∈ ns, n.isComment = false → ∀ s, step s (g n) = step s n)
    (hSkip : ∀ n, n.isComment = true → ∀ s, step s n = s) (s : σ) :
    (thin g keep ns).foldl step s = ns.foldl step s := by
  rw [List.foldl_eq_foldlM, List.foldl_eq_foldlM]
  refine congrArg Id.run (h.foldlM_thin ?_ ?_ s)
  · intro n hMem hComment s
    exact congrArg pure (hSame n hMem hComment s)
  · intro n hComment s
    exact congrArg pure (hSkip n hComment s)

end Lists

theorem thin_eq_map {ns : List Node} (hNone : ∀ n ∈ ns, n.isComment = false) :
    thin g keep ns = ns.map g := by
  exact congrArg (List.map g)
    (List.filter_eq_self.mpr fun n hMem => h.keep_of_isComment (hNone n hMem))

theorem parts {n : Node} (hBody : n.isBody = false) : (g n).parts = n.parts.map g := by
  rw [Node.parts, h.children n hBody, h.filter_isPart_thin]
  rfl

theorem filter_parts {n : Node} (hBody : n.isBody = false) {p : Node → Bool}
    (hSame : ∀ n, p (g n) = p n) : (g n).parts.filter p = (n.parts.filter p).map g := by
  rw [h.parts hBody, List.filter_map]
  exact congrArg (List.map g) (List.filter_congr fun c _ => hSame c)

end Thinning

end SwiftDerive.Reading
