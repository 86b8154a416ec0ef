import SwiftDerive.Command.Outcome
import SwiftDerive.Console.Rule
import SwiftDerive.Expansion
import SwiftDerive.Json.Writer
import SwiftDerive.Reading.Entry
import SwiftDerive.Syntax.Interchange

/-! # Expanding files

All source files are read and expanded before anything is printed or written, so that a file which
cannot be read leaves nothing behind but its message.
-/

namespace SwiftDerive

set_option autoImplicit false

open Interchange

def Diagnostic.entries (d : Diagnostic) : List (String × Json) :=
  [("message", .string d.message.text), ("domain", .string d.message.domain),
   ("id", .string d.message.key), ("severity", .string d.message.severity.name),
   ("line", optional (fun p => .int p.line) d.position),
   ("column", optional (fun p => .int p.column) d.position)]

namespace Expand

/-- An expanded file: its names below the base folder, its new text, the diagnostics, and the
number of attributes that gave anything. -/
structure FileExpansion where
  names : List String
  source : String
  diagnostics : List Diagnostic
  count : Nat

def FileExpansion.relativePath (x : FileExpansion) : String := Path.joined x.names

def readFile (grammar : GrammarReader) (found : Discovery.Found) : Except Failure SourceFile := do
  let text ← found.read.mapError (.unreadable found.path)
  (Reading.parseSourceFile text (grammar text)).mapError (.unparsable found.path)

def expandFound (grammar : GrammarReader) (found : Discovery.Found) :
    Except Failure FileExpansion := do
  let file ← readFile grammar found
  let expansion := Registry.builtIn.expandFile file.declarations
  let source ← (SourceFile.render ⟨expansion.decls⟩).mapError (.unprintable found.path)
  return ⟨found.names, source, expansion.diagnostics, expansion.count⟩

def expandAll (grammar : GrammarReader) (tree : Entry) (path : Path) :
    Except Failure (List FileExpansion) := do
  let found ← (Discovery.discover tree path).mapError .discovery
  found.mapM (expandFound grammar)

def FileExpansion.messages (x : FileExpansion) : String :=
  String.join (x.diagnostics.map fun d => x.relativePath ++ ":" ++ d.render ++ "\n")

def FileExpansion.toJson (x : FileExpansion) : Json :=
  .object [("path", .string x.relativePath), ("source", .string x.source),
    ("expanded", .int x.count), ("diagnostics", many (fun d => .object d.entries) x.diagnostics)]

def printedJson (value : Json) : String := value.sorted.indented 2 ++ "\n"

def FileExpansion.printed (x : FileExpansion) : String :=
  Console.rule x.relativePath ++ "\n" ++ Console.shown x.source ++ "\n"

/-- The tree with the expanded files below a folder, up to the first that cannot be written. -/
def writeAll (output : Path) : Entry → List FileExpansion → Entry × Option Failure
  | tree, [] => (tree, none)
  | tree, x :: xs =>
    let path := output.append x.names
    match tree.write path (x.source ++ "\n") with
    | .ok written => writeAll output written xs
    | .error fault => (tree, some (.unwritable path fault))

def statusOf (xs : List FileExpansion) : ExitStatus :=
  if xs.any (!·.diagnostics.isEmpty) then .problems else .success

def run (grammar : GrammarReader) (tree : Entry) (path : Path) (output : Option Path)
    (asJson : Bool) : Outcome :=
  match expandAll grammar tree path with
  | .error failure => failure.outcome tree ""
  | .ok xs =>
    let messages := String.join (xs.map FileExpansion.messages)
    match output with
    | some folder =>
      match writeAll folder tree xs with
      | (written, none) => ⟨statusOf xs, .nothing, messages, written⟩
      | (written, some failure) => failure.outcome written messages
    | none =>
      let text :=
        if asJson then printedJson (.object [("files", many FileExpansion.toJson xs)])
        else String.join (xs.map FileExpansion.printed)
      ⟨statusOf xs, .text text, messages, tree⟩

end Expand

end SwiftDerive
