import SwiftDerive.Compiler
import SwiftDerive.Unicode.Digit

/-! # Command lines

The words of a command line, read as one of four commands with its options. An option is a name
with two dashes or an unambiguous beginning of it; its value is the next word, or follows an
equals sign. Of an option that is given several times the last value counts.
-/

namespace SwiftDerive

set_option autoImplicit false

inductive Command where
  | expand (path : String) (output : Option String) (asJson : Bool)
  | requirements (path : String) (asJson : Bool)
  | wireSchema (path : String)
  | validate (path compiler : String)
  deriving DecidableEq, Repr

namespace Options

inductive Word where
  | value
  | option (name : String) (given : Option String)
  | refused
  deriving DecidableEq, Repr

def withoutFinalNewline (cs : List Char) : List Char :=
  if cs.getLast? = some '\n' then cs.dropLast else cs

/-- Whether the characters behind a dash make a negative number: digits, with or without a fraction
behind them, or a fraction alone. A line feed at the end does not count. -/
def isNumber (cs : List Char) : Bool :=
  let cs := withoutFinalNewline cs
  match cs.dropWhile Unicode.isDecimalDigit with
  | [] => !cs.isEmpty
  | '.' :: fraction => !fraction.isEmpty && fraction.all Unicode.isDecimalDigit
  | _ => false

def givenValue (word : List Char) : Option String :=
  match word.dropWhile (· != '=') with
  | [] => none
  | _ :: value => some (String.ofList value)

/-- Reads a word where options of the given names may stand. Words with a dash in front are values
if they are numbers or have a space. -/
def classify (names : List String) (word : List Char) : Word :=
  match word with
  | '-' :: '-' :: _ =>
    let stem := word.takeWhile (· != '=')
    match names.filter fun name => stem.isPrefixOf name.toList with
    | [name] => .option name (givenValue word)
    | [] => if word.contains ' ' then .value else .refused
    | _ => .refused
  | '-' :: 'h' :: _ => .refused
  | '-' :: c :: cs => if isNumber (c :: cs) || word.contains ' ' then .value else .refused
  | _ => .value

/-- The option that asks for help. It ends the reading. -/
def help : String := "--help"

/-- The options with their values, in order; nothing if a word is none of them. -/
def values? (names : List String) : List String → Option (List (String × String))
  | [] => some []
  | word :: words =>
    match classify (help :: names) word.toList with
    | .option name (some value) =>
      if name = help then none else ((name, value) :: ·) <$> values? names words
    | .option name none =>
      match words with
      | [] => none
      | value :: later =>
        if name ≠ help ∧ classify (help :: names) value.toList = .value then
          ((name, value) :: ·) <$> values? names later
        else none
    | _ => none

def last? (values : List (String × String)) (name : String) : Option String :=
  values.reverse.lookup name

def path : String := "--path"

def output : String := "--output"

def format : String := "--format"

def compiler : String := "--compiler"

/-- Whether JSON is asked for, where it may be instead of the other format. -/
def asJson? (other : String) (values : List (String × String)) : Option Bool :=
  if values.all fun (name, value) => name != format || [other, "json"].contains value then
    some (last? values format == some "json")
  else none

def command? (name : String) (words : List String) : Option Command := do
  match name with
  | "expand" =>
    let values ← values? [path, output, format] words
    return .expand (← last? values path) (last? values output) (← asJson? "text" values)
  | "requirements" =>
    let values ← values? [path, format] words
    return .requirements (← last? values path) (← asJson? "table" values)
  | "wire-schema" =>
    let values ← values? [path] words
    return .wireSchema (← last? values path)
  | "validate" =>
    let values ← values? [path, compiler] words
    return .validate (← last? values path) ((last? values compiler).getD defaultCompiler)
  | _ => none

/-- The command that the words of a command line give, behind any number of options that ask for
more messages. -/
def read? : List String → Option Command
  | [] => none
  | word :: words =>
    match classify [help, "--verbose"] word.toList with
    | .value => command? word words
    | .option "--verbose" none => read? words
    | _ => none

end Options

end SwiftDerive
