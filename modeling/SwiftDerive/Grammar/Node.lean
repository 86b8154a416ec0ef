/-! # Concrete trees

The trees that a grammar gives for a source text. A node has a kind, a range of bytes and its
children in order. Punctuation and keywords are unnamed nodes.
-/

namespace SwiftDerive.Grammar

set_option autoImplicit false

structure Node where
  kind : String
  named : Bool
  /-- The grammar expected the node and supplied it without text. -/
  missing : Bool
  /-- The node covers text that fits nowhere. -/
  isError : Bool
  /-- The node is or holds an erroneous or missing node. -/
  hasError : Bool
  start : Nat
  stop : Nat
  children : List Node

namespace Node

instance : Inhabited Node := ⟨⟨"", false, false, false, false, 0, 0, []⟩⟩

def isComment (n : Node) : Bool :=
  n.kind == "comment" || n.kind == "multiline_comment"

/-- Whether the node counts for the reader: it is named and no comment. -/
def isPart (n : Node) : Bool :=
  n.named && !n.isComment

def parts (n : Node) : List Node :=
  n.children.filter isPart

def isOf (kinds : List String) (n : Node) : Bool :=
  kinds.contains n.kind

mutual

/-- The first erroneous or missing node at or below a node: the search goes down into the first
flagged child of each node. -/
def firstError (n : Node) : Node :=
  match n with
  | ⟨_, _, missing, isError, _, _, _, children⟩ =>
    if isError || missing then n else (firstErrorAmong children).getD n

def firstErrorAmong : List Node → Option Node
  | [] => none
  | n :: ns => if n.hasError || n.missing then some n.firstError else firstErrorAmong ns

end

theorem firstError_eq (n : Node) :
    n.firstError = if n.isError || n.missing then n else (firstErrorAmong n.children).getD n := by
  cases n
  simp only [firstError]

end Node

end SwiftDerive.Grammar
