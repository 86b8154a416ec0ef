/-! # Type expressions

The types that declarations mention, with decidable equality. Tuple types and function types hold
elements: a type that may have a label, a second name and the variadic mark.
-/

namespace SwiftDerive

set_option autoImplicit false

structure TupleElement (α : Type) where
  type : α
  label : Option String
  secondName : Option String
  variadic : Bool
  deriving DecidableEq, Repr

inductive TypeRef where
  | named (name : String) (arguments : List TypeRef)
  | member (base : TypeRef) (name : String) (arguments : List TypeRef)
  /-- An optional, `T?`, or an implicitly unwrapped one, `T!`. -/
  | optional (wrapped : TypeRef) (implicitlyUnwrapped : Bool)
  | array (element : TypeRef)
  | dictionary (key value : TypeRef)
  | tuple (elements : List (TupleElement TypeRef))
  /-- A function type, `(A, B) async throws -> R`. The thrown type matters to a throwing one. -/
  | function (parameters : List (TupleElement TypeRef)) (result : TypeRef)
      (isAsync isThrowing : Bool) (thrown : Option TypeRef)
  /-- A type behind attributes or specifiers, as `@escaping`, `inout` or `some`. -/
  | attributed (specifiers : List String) (base : TypeRef)
  | composition (types : List TypeRef)
  | metatype (base : TypeRef) (kind : String)

namespace TypeRef

instance : Inhabited TypeRef := ⟨.named "" []⟩

def void : TypeRef := .named "Void" []

mutual

def same : TypeRef → TypeRef → Bool
  | .named n as, .named n' as' => n == n' && sameAll as as'
  | .member b n as, .member b' n' as' => b.same b' && n == n' && sameAll as as'
  | .optional w i, .optional w' i' => w.same w' && i == i'
  | .array e, .array e' => e.same e'
  | .dictionary k v, .dictionary k' v' => k.same k' && v.same v'
  | .tuple es, .tuple es' => sameElements es es'
  | .function ps r a t th, .function ps' r' a' t' th' =>
    sameElements ps ps' && r.same r' && a == a' && t == t' && sameThrown th th'
  | .attributed ss b, .attributed ss' b' => ss == ss' && b.same b'
  | .composition ts, .composition ts' => sameAll ts ts'
  | .metatype b k, .metatype b' k' => b.same b' && k == k'
  | _, _ => false

def sameAll : List TypeRef → List TypeRef → Bool
  | [], [] => true
  | t :: ts, t' :: ts' => t.same t' && sameAll ts ts'
  | _, _ => false

def sameElements : List (TupleElement TypeRef) → List (TupleElement TypeRef) → Bool
  | [], [] => true
  | ⟨t, l, s, v⟩ :: es, ⟨t', l', s', v'⟩ :: es' =>
    t.same t' && l == l' && s == s' && v == v' && sameElements es es'
  | _, _ => false

def sameThrown : Option TypeRef → Option TypeRef → Bool
  | none, none => true
  | some t, some t' => t.same t'
  | _, _ => false

end

mutual

theorem same_iff_eq : (t u : TypeRef) → (t.same u = true ↔ t = u)
  | .named n as, u => by cases u <;> simp [same, sameAll_iff_eq as]
  | .member b n as, u => by cases u <;> simp [same, same_iff_eq b, sameAll_iff_eq as, and_assoc]
  | .optional w i, u => by cases u <;> simp [same, same_iff_eq w]
  | .array e, u => by cases u <;> simp [same, same_iff_eq e]
  | .dictionary k v, u => by cases u <;> simp [same, same_iff_eq k, same_iff_eq v]
  | .tuple es, u => by cases u <;> simp [same, sameElements_iff_eq es]
  | .function ps r a t th, u => by
    cases u <;>
      simp [same, sameElements_iff_eq ps, same_iff_eq r, sameThrown_iff_eq th, and_assoc]
  | .attributed ss b, u => by cases u <;> simp [same, same_iff_eq b]
  | .composition ts, u => by cases u <;> simp [same, sameAll_iff_eq ts]
  | .metatype b k, u => by cases u <;> simp [same, same_iff_eq b]

theorem sameAll_iff_eq : (ts us : List TypeRef) → (sameAll ts us = true ↔ ts = us)
  | [], us => by cases us <;> simp [sameAll]
  | t :: ts, us => by cases us <;> simp [sameAll, same_iff_eq t, sameAll_iff_eq ts]

theorem sameElements_iff_eq :
    (es us : List (TupleElement TypeRef)) → (sameElements es us = true ↔ es = us)
  | [], us => by cases us <;> simp [sameElements]
  | ⟨t, l, s, v⟩ :: es, [] => by simp [sameElements]
  | ⟨t, l, s, v⟩ :: es, ⟨t', l', s', v'⟩ :: us => by
    simp [sameElements, same_iff_eq t, sameElements_iff_eq es, and_assoc]

theorem sameThrown_iff_eq : (t u : Option TypeRef) → (sameThrown t u = true ↔ t = u)
  | none, u => by cases u <;> simp [sameThrown]
  | some t, u => by cases u <;> simp [sameThrown, same_iff_eq t]

end

instance : DecidableEq TypeRef := fun t u =>
  decidable_of_iff (t.same u = true) (same_iff_eq t u)

def hasSpecifier (specifier : String) : TypeRef → Bool
  | .attributed specifiers _ => specifiers.contains specifier
  | _ => false

/-- A type behind further specifiers; without any it stays as it is, and specifiers that it already
has are joined. -/
def attributedWith (specifiers : List String) (t : TypeRef) : TypeRef :=
  match specifiers, t with
  | [], t => t
  | specifiers, .attributed inner base => .attributed (specifiers ++ inner) base
  | specifiers, t => .attributed specifiers t

def withArguments (arguments : List TypeRef) : TypeRef → TypeRef
  | .named name _ => .named name arguments
  | .member base name _ => .member base name arguments
  | t => t

end TypeRef

end SwiftDerive
