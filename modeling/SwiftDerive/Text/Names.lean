import SwiftDerive.Unicode.Uppercase
import SwiftDerive.Text.Blank

/-! # Names

A name that is also a keyword stands in backticks. Without them it is the plain name.
-/

namespace SwiftDerive.Text

set_option autoImplicit false

def plainName (name : String) : String :=
  String.ofList (dropEndWhile (· == '\x60') (name.toList.dropWhile (· == '\x60')))

def capitalized (name : String) : String :=
  match name.toList with
  | [] => ""
  | c :: rest => String.ofList (Unicode.capital c ++ rest)

end SwiftDerive.Text
