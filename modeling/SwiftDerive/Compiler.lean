import SwiftDerive.Syntax.Construct
import SwiftDerive.Syntax.Layout
import SwiftDerive.Text.Quoted
import SwiftDerive.Text.Replace

/-! # Compilers

A requirement is checked by compiling a protocol with it as the only member. A compiler is started
by a launcher on a file with the source; what it says is kept without the path of that file.
-/

namespace SwiftDerive

set_option autoImplicit false

structure CompilerRun where
  exitCode : Nat
  messages : String
  deriving DecidableEq, Repr

/-- Why the launcher that starts compilers cannot be started itself. -/
inductive LaunchError where
  | missing (launcher : String)
  | denied (launcher : String)
  deriving DecidableEq, Repr

def LaunchError.message : LaunchError → String
  | .missing launcher => "[Errno 2] No such file or directory: " ++ Text.quoted launcher
  | .denied launcher => "[Errno 13] Permission denied: " ++ Text.quoted launcher

abbrev Launcher := (compiler path source : String) → Except LaunchError CompilerRun

def defaultCompiler : String := "swiftc"

namespace Validation

def sourcePath : String := "/tmp/validation/main.swift"

/-- The outcome of compiling a source: the exit code, and the messages without the path. -/
structure Result where
  exitCode : Nat
  messages : String
  source : String
  deriving DecidableEq, Repr

def Result.ok (r : Result) : Bool := r.exitCode == 0

def ofSource (launch : Launcher) (compiler source : String) : Except LaunchError Result := do
  let run ← launch compiler sourcePath source
  let messages := String.ofList (Text.universalNewlines run.messages.toList)
  return ⟨run.exitCode, Text.replaceAll sourcePath "" messages, source⟩

def wrapper (requirement : Decl) : Decl :=
  .type (Construct.typeHeader .protocolType "Foo" [] [] []) [requirement]

def sourceOf (requirement : Decl) : Except PrintError String :=
  return (← (wrapper requirement).render) ++ "\n"

end Validation

/-- A compiler with a known outcome. In its messages `placeholder` stands for the path of the
source file. -/
structure KnownCompiler where
  command : String
  exitCode : Nat
  messages : String

namespace KnownCompiler

def placeholder : String := "\x7bsource\x7d"

def run (c : KnownCompiler) (path : String) : CompilerRun :=
  ⟨c.exitCode, Text.replaceAll placeholder path c.messages⟩

def absent (compiler : String) : CompilerRun :=
  ⟨127, "/usr/bin/env: ‘" ++ compiler ++ "’: No such file or directory\n"⟩

def launcher (known : List KnownCompiler) : Launcher := fun compiler path _ =>
  match known.find? (·.command == compiler) with
  | some c => .ok (c.run path)
  | none => .ok (absent compiler)

end KnownCompiler

end SwiftDerive
