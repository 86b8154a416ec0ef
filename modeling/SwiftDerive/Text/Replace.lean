/-! # Replacement

All occurrences of one text in another, from the left and without overlap.
-/

namespace SwiftDerive.Text

set_option autoImplicit false

/-- The text with `new` for every occurrence of `old`, behind `skipped` characters that belong to
an occurrence already replaced. -/
def replaceFrom (old new : List Char) : (skipped : Nat) → List Char → List Char
  | _, [] => []
  | skipped + 1, _ :: cs => replaceFrom old new skipped cs
  | 0, c :: cs =>
    if old.isPrefixOf (c :: cs) then new ++ replaceFrom old new (old.length - 1) cs
    else c :: replaceFrom old new 0 cs

def replaceAll (old new text : String) : String :=
  String.ofList (replaceFrom old.toList new.toList 0 text.toList)

end SwiftDerive.Text
