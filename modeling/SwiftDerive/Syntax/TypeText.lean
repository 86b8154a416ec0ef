import SwiftDerive.Syntax.TypeRef

/-! # The text of types

Types are written in canonical form: one space after a comma or a colon, none inside brackets, and
parentheses around a function type, a composition or an attributed type that takes a mark or a
member behind it.
-/

namespace SwiftDerive

set_option autoImplicit false

def commaSeparated (items : List String) : String :=
  ", ".intercalate items

def angled (items : List String) : String :=
  if items.isEmpty then "" else "<" ++ commaSeparated items ++ ">"

namespace TypeRef

/-- Whether the type needs parentheses before a mark or a member behind it. -/
def needsParentheses : TypeRef → Bool
  | .function .. | .composition _ | .attributed _ _ => true
  | _ => false

def effectWords (isAsync isThrowing : Bool) (thrown : Option String) : List String :=
  (if isAsync then ["async"] else []) ++
    (if isThrowing then
      [match thrown with
        | none => "throws"
        | some text => "throws(" ++ text ++ ")"]
    else [])

def elementText (label secondName : Option String) (variadic : Bool) (type : String) : String :=
  let text := if variadic then type ++ "..." else type
  match label, secondName with
  | none, _ => text
  | some label, none => label ++ ": " ++ text
  | some label, some second => label ++ " " ++ second ++ ": " ++ text

mutual

def render : TypeRef → String
  | .named name arguments => name ++ angled (renderAll arguments)
  | .member base name arguments => base.render ++ "." ++ name ++ angled (renderAll arguments)
  | .optional wrapped implicitlyUnwrapped =>
    let mark := if implicitlyUnwrapped then "!" else "?"
    (if wrapped.needsParentheses then "(" ++ wrapped.render ++ ")" else wrapped.render) ++ mark
  | .array element => "[" ++ element.render ++ "]"
  | .dictionary key value => "[" ++ key.render ++ ": " ++ value.render ++ "]"
  | .tuple elements => "(" ++ commaSeparated (renderElements elements) ++ ")"
  | .function parameters result isAsync isThrowing thrown =>
    " ".intercalate (("(" ++ commaSeparated (renderElements parameters) ++ ")") ::
      effectWords isAsync isThrowing (renderThrown thrown) ++ ["-> " ++ result.render])
  | .attributed specifiers base => " ".intercalate specifiers ++ " " ++ base.render
  | .composition types => " & ".intercalate (renderAll types)
  | .metatype base kind =>
    (if base.needsParentheses then "(" ++ base.render ++ ")" else base.render) ++ "." ++ kind

def renderAll : List TypeRef → List String
  | [] => []
  | t :: ts => t.render :: renderAll ts

def renderElements : List (TupleElement TypeRef) → List String
  | [] => []
  | ⟨type, label, secondName, variadic⟩ :: es =>
    elementText label secondName variadic type.render :: renderElements es

def renderThrown : Option TypeRef → Option String
  | none => none
  | some t => some t.render

end

instance : ToString TypeRef := ⟨render⟩

theorem renderAll_eq_map (ts : List TypeRef) : renderAll ts = ts.map render := by
  induction ts with
  | nil => rfl
  | cons t ts ih => simp [renderAll, ih]

end TypeRef

end SwiftDerive
