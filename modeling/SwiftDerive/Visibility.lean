import SwiftDerive.Syntax.Decl

/-! # Visibility

Which members of a type its generated protocol exposes.
-/

namespace SwiftDerive.Decl

set_option autoImplicit false

def isPublic (d : Decl) : Bool :=
  d.hasModifier ["public", "open"]

def isCallable : Decl → Bool
  | .function _ | .variable _ => true
  | _ => false

/-- Whether a member of a type is exposed: functions and properties of an instance are, and in a
public type only those that are public themselves. -/
def isExposed (typeIsPublic : Bool) (member : Decl) : Bool :=
  member.isCallable && !member.hasModifier ["static", "class"] && (!typeIsPublic || member.isPublic)

end SwiftDerive.Decl
