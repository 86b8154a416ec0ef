import SwiftDerive.Command.Inspect
import SwiftDerive.Command.Options

/-! # Running commands

A command line is run on a tree of files. Where the words of a command line are no command,
nothing is done or said.
-/

namespace SwiftDerive

set_option autoImplicit false

namespace Command

/-- The output folder; an empty name is none. -/
def outputFolder (output : Option String) : Option Path :=
  match output with
  | none => none
  | some folder => if folder.isEmpty then none else some (Path.ofString folder)

def run (grammar : GrammarReader) (launch : Launcher) (tree : Entry) : Command → Outcome
  | .expand path output asJson =>
    Expand.run grammar tree (Path.ofString path) (outputFolder output) asJson
  | .requirements path asJson => Inspect.requirements grammar tree (Path.ofString path) asJson
  | .wireSchema path => Inspect.wireSchema grammar tree (Path.ofString path)
  | .validate path compiler =>
    Inspect.validate grammar launch tree (Path.ofString path) compiler

def runLine (grammar : GrammarReader) (launch : Launcher) (tree : Entry) (words : List String) :
    Outcome :=
  match Options.read? words with
  | none => ⟨.failure, .nothing, "", tree⟩
  | some command => command.run grammar launch tree

def textsOf : List Discovery.Found → List String
  | [] => []
  | file :: later =>
    match file.read with
    | .ok text => text :: textsOf later
    | .error _ => []

/-- The texts that a command hands to the grammar, in order, as long as it can read them. -/
def texts (tree : Entry) : Command → List String
  | .expand path .. =>
    match Discovery.discover tree (Path.ofString path) with
    | .ok found => textsOf found
    | .error _ => []
  | .requirements path _ | .wireSchema path | .validate path _ =>
    match Discovery.requireFile tree (Path.ofString path) with
    | .ok file => textsOf [file]
    | .error _ => []

/-- The grammar that gives these trees for the texts that a command line hands to it, in order. -/
def grammarOf (tree : Entry) (words : List String) (trees : List Grammar.Node) : GrammarReader :=
  let known :=
    match Options.read? words with
    | none => []
    | some command => (command.texts tree).zip trees
  fun text => (known.lookup text).getD default

end Command

end SwiftDerive
