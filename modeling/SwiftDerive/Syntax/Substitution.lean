import SwiftDerive.Syntax.TypeRef

/-! # Replacing names in types

A substitution replaces bare names: a name with generic arguments, the base of a member type and
the thrown type of a function stay as they are. Mentioning looks at all names but those of members
and of thrown types.
-/

namespace SwiftDerive

set_option autoImplicit false

/-- The type that stands for a name, where it has one. -/
abbrev Substitution := String → Option TypeRef

/-- The substitution given by a list of entries, the first entry of a name counting. -/
def Substitution.ofList (entries : List (String × TypeRef)) : Substitution :=
  fun name => entries.lookup name

namespace TypeRef

mutual

/-- The type with each bare name replaced by the type that stands for it. -/
def substitute (σ : Substitution) : TypeRef → TypeRef
  | .named name [] => (σ name).getD (.named name [])
  -- A name with arguments stays, and so does the base of a member type with all that is in it.
  | .named name (t :: ts) => .named name (substituteAll σ (t :: ts))
  | .member base name arguments => .member base name (substituteAll σ arguments)
  | .optional wrapped implicitlyUnwrapped => .optional (wrapped.substitute σ) implicitlyUnwrapped
  | .array element => .array (element.substitute σ)
  | .dictionary key value => .dictionary (key.substitute σ) (value.substitute σ)
  | .tuple elements => .tuple (substituteElements σ elements)
  | .function parameters result isAsync isThrowing thrown =>
    .function (substituteElements σ parameters) (result.substitute σ) isAsync isThrowing thrown
  | .attributed specifiers base => .attributed specifiers (base.substitute σ)
  | .composition types => .composition (substituteAll σ types)
  | .metatype base kind => .metatype (base.substitute σ) kind

def substituteAll (σ : Substitution) : List TypeRef → List TypeRef
  | [] => []
  | t :: ts => t.substitute σ :: substituteAll σ ts

def substituteElements (σ : Substitution) :
    List (TupleElement TypeRef) → List (TupleElement TypeRef)
  | [] => []
  | ⟨type, label, secondName, variadic⟩ :: es =>
    ⟨type.substitute σ, label, secondName, variadic⟩ :: substituteElements σ es

end

mutual

def mentions (names : List String) : TypeRef → Bool
  | .named name arguments => names.contains name || mentionsAny names arguments
  | .member base _ arguments => base.mentions names || mentionsAny names arguments
  | .optional wrapped _ => wrapped.mentions names
  | .array element => element.mentions names
  | .dictionary key value => key.mentions names || value.mentions names
  | .tuple elements => mentionsElements names elements
  | .function parameters result _ _ _ =>
    result.mentions names || mentionsElements names parameters
  | .attributed _ base => base.mentions names
  | .composition types => mentionsAny names types
  | .metatype base _ => base.mentions names

def mentionsAny (names : List String) : List TypeRef → Bool
  | [] => false
  | t :: ts => t.mentions names || mentionsAny names ts

def mentionsElements (names : List String) : List (TupleElement TypeRef) → Bool
  | [] => false
  | ⟨type, _, _, _⟩ :: es => type.mentions names || mentionsElements names es

end

theorem substituteAll_eq_map (σ : Substitution) (ts : List TypeRef) :
    substituteAll σ ts = ts.map (substitute σ) := by
  induction ts with
  | nil => rfl
  | cons t ts ih => simp [substituteAll, ih]

end TypeRef

end SwiftDerive
