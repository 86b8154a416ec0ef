import SwiftDerive.Command.Run
import SwiftDerive.Grammar.Interchange
import SwiftDerive.Text.Base64

/-! # Workspaces

All that a run depends on, as one object: the files with their texts, their bytes in base 64 or the
reason for which they cannot be opened, further folders, the concrete trees of the texts that the run
reads, in order, and the compilers that are known with what they answer.
-/

namespace SwiftDerive

set_option autoImplicit false

structure Workspace where
  tree : Entry
  grammarTrees : List Grammar.Node
  compilers : List KnownCompiler

namespace Workspace

def field? (key : String) : Json → Option Json
  | .object entries => entries.lookup key
  | _ => none

def entriesUnder (key : String) (value : Json) : List (String × Json) :=
  match field? key value with
  | some (.object entries) => entries
  | _ => []

def itemsUnder (key : String) (value : Json) : List Json :=
  match field? key value with
  | some (.array items) => items
  | _ => []

/-- A file given by its text, by its bytes in base 64, or by the reason for which it cannot be
opened. -/
def fileOf : Json → Entry
  | .string text => .file text.toUTF8.data.toList
  | value =>
    match field? "base64" value, field? "locked" value with
    | some (.string text), _ => .file (Text.decodeBase64 text)
    | _, some (.string reason) => .locked reason
    | _, _ => .file []

def putFile (above : List String) (tree : Entry) (file : String × Json) : Entry :=
  tree.put (above ++ (Path.ofString file.1).names) (fileOf file.2)

def putFolder (above : List String) (tree : Entry) (name : Json) : Entry :=
  match name with
  | .string name =>
    match tree.makeFolder ⟨"", above ++ (Path.ofString name).names⟩ with
    | .ok (made, _) => made
    | .error _ => tree
  | _ => tree

def treeOf (above : List String) (value : Json) : Entry :=
  (itemsUnder "dirs" value).foldl (putFolder above)
    ((entriesUnder "files" value).foldl (putFile above) ((Entry.folder []).put above (.folder [])))

def compilerOf (command : String) (value : Json) : KnownCompiler where
  command := command
  exitCode :=
    match field? "exit" value with
    | some (.int n) => (n % 256).toNat
    | _ => 0
  messages :=
    match field? "stderr" value with
    | some (.string text) => text
    | _ => ""

def ofJson? (value : Json) : Option Workspace := do
  return {
    tree := treeOf [] value
    grammarTrees := ← Grammar.nodesOfJson? (itemsUnder "trees" value)
    compilers := (entriesUnder "compilers" value).map fun (name, answer) =>
      compilerOf name answer }

def run (w : Workspace) (words : List String) : Outcome :=
  Command.runLine (Command.grammarOf w.tree words w.grammarTrees)
    (KnownCompiler.launcher w.compilers) w.tree words

/-- The files that are in the second tree and not in the first, with their bytes. -/
def newFiles (before after : Entry) : List (List String × List UInt8) :=
  let old := (before.files []).map (·.1)
  (after.files []).filter fun file => !old.contains file.1

end Workspace

end SwiftDerive
