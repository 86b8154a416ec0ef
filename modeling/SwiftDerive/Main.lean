import SwiftDerive.Json.Reader
import SwiftDerive.Workspace

/-! # The program

The command line is run in the workspace that stands as an object on standard input. Files that
the run makes are printed as an object of paths and texts behind its output.
-/

namespace SwiftDerive.Program

set_option autoImplicit false

partial def readAll (input : IO.FS.Stream) (soFar : String) : IO String := do
  let line ← input.getLine
  if line.isEmpty then return soFar else readAll input (soFar ++ line)

def rowText (cells : List String) : String :=
  " | ".intercalate (cells.map Console.shownCell) ++ "\n"

def outputText : Output → String
  | .text text => text
  | .table header rows => String.join ((header :: rows).map rowText)

def filesText (files : List (List String × List UInt8)) : String :=
  if files.isEmpty then ""
  else
    (Json.object (files.map fun (names, bytes) =>
      (Path.joined names, .string ((Entry.textOf bytes).toOption.getD "")))).compact ++ "\n"

def run (words : List String) : IO UInt32 := do
  let text ← readAll (← IO.getStdin) ""
  match (Json.read text).toOption.bind Workspace.ofJson? with
  | none =>
    (← IO.getStderr).putStr "The workspace cannot be read.\n"
    return 2
  | some workspace =>
    let outcome := workspace.run words
    (← IO.getStdout).putStr (outputText outcome.output)
    (← IO.getStdout).putStr (filesText (Workspace.newFiles workspace.tree outcome.tree))
    (← IO.getStderr).putStr outcome.messages
    return outcome.status.code.toUInt32

end SwiftDerive.Program

def main (words : List String) : IO UInt32 := SwiftDerive.Program.run words
