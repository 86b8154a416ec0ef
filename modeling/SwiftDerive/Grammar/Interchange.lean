import SwiftDerive.Grammar.Node
import SwiftDerive.Json.Basic

/-! # Concrete trees as data

A node is written as an array of its kind, its flags, its first byte, the byte behind its last,
and its children. The flags are a sum of one for a named node, two for a missing one, four for an
erroneous one, and eight for one with an error in it.
-/

namespace SwiftDerive.Grammar

set_option autoImplicit false

def hasFlag (flags : Int) (power : Nat) : Bool := flags.toNat.testBit power

mutual

def Node.ofJson? : Json → Option Node
  | .array (.string kind :: .int flags :: .int start :: .int stop :: children) => do
    return {
      kind
      named := hasFlag flags 0
      missing := hasFlag flags 1
      isError := hasFlag flags 2
      hasError := hasFlag flags 3
      start := start.toNat
      stop := stop.toNat
      children := ← nodesOfJson? children }
  | _ => none

def nodesOfJson? : List Json → Option (List Node)
  | [] => some []
  | item :: items => do
    let node ← Node.ofJson? item
    let nodes ← nodesOfJson? items
    return node :: nodes

end

end SwiftDerive.Grammar
