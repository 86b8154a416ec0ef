import SwiftDerive.Discovery
import SwiftDerive.Compiler
import SwiftDerive.Grammar.Source

/-! # Outcomes of commands

What a command leaves behind: an exit status, what it prints, what it reports on standard error,
and the tree of files. A command that cannot do its work fails for one reason.
-/

namespace SwiftDerive

set_option autoImplicit false

/-- How a command ends: well, with problems in the sources, or without having done its work. -/
inductive ExitStatus where
  | success | problems | failure
  deriving DecidableEq, Repr

def ExitStatus.code : ExitStatus → Nat
  | .success => 0
  | .problems => 1
  | .failure => 2

inductive Output where
  | text (text : String)
  | table (header : List String) (rows : List (List String))
  deriving DecidableEq, Repr

def Output.nothing : Output := .text ""

structure Outcome where
  status : ExitStatus
  output : Output
  messages : String
  tree : Entry

inductive Failure where
  | discovery (fault : Discovery.Fault)
  | unreadable (path : Path) (fault : FileFault)
  | unparsable (path : Path) (error : ParseError)
  | unprintable (path : Path) (error : PrintError)
  | unwritable (path : Path) (fault : FileFault)
  | noLauncher (compiler : String) (error : LaunchError)

def Failure.message : Failure → String
  | .discovery fault => fault.message
  | .unreadable path fault => "Failed reading " ++ path.render ++ ": " ++ fault.message
  | .unparsable path error => path.render ++ ":" ++ error.message
  | .unprintable path error => path.render ++ ": " ++ error.message
  | .unwritable path fault => "Failed writing " ++ path.render ++ ": " ++ fault.message
  | .noLauncher compiler error => "Cannot run compiler '" ++ compiler ++ "': " ++ error.message

def Failure.outcome (tree : Entry) (messages : String) (f : Failure) : Outcome :=
  ⟨.failure, .nothing, messages ++ f.message ++ "\n", tree⟩

abbrev GrammarReader := String → Grammar.Node

end SwiftDerive
