import SwiftDerive.Console.Highlight
import SwiftDerive.Console.Text

/-! # Rules

A rule is a line of dashes across the terminal with a title in its middle. A title has parts with
styles of their own, between which characters do not join: what a line has too much by that is cut
off at its end. Each bracket is such a part, so that a title has no codes for colours.
-/

namespace SwiftDerive.Console

set_option autoImplicit false

def lineWidth : Nat := 80

def tagOffsets (offset : Nat) : List Piece → List Nat
  | [] => []
  | .tag :: later => offset :: tagOffsets offset later
  | piece :: later => tagOffsets (offset + (withoutControls piece.text).length) later

/-- The parts of a text between offsets, behind `offset` characters. -/
def partsFrom (edges : List Nat) (offset : Nat) : List Char → List (List Char)
  | [] => [[]]
  | c :: cs =>
    let (part, parts) :=
      match partsFrom edges (offset + 1) cs with
      | [] => ([c], [])
      | part :: parts => (c :: part, parts)
    if edges.contains offset then [] :: part :: parts else part :: parts

def titleParts (title : String) : List (List Char) :=
  let plain := withoutControls (withoutMarkup title.toList)
  let edges := tagOffsets 0 (pieces title.toList) ++ Highlight.styleEdges plain
  let line := plain.map fun c => if c = '\n' then ' ' else c
  partsFrom (edges.map fun edge => (expandTabs (line.take edge)).length) 0
    (truncate (lineWidth - 4) (expandTabs line))

/-- A rule with a title between spaces; of the dashes those on the right are as many or one
more. -/
def rule (title : String) : String :=
  let parts := titleParts title
  let free := lineWidth - cells parts.flatten
  let left := free / 2 - 1
  let right := free - free / 2 - 1
  String.ofList (fitted lineWidth
    ((List.replicate left '-' ++ [' ']) :: parts ++ [' ' :: List.replicate right '-']))

end SwiftDerive.Console
