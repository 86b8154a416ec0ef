import Mathlib.Data.List.Basic
import Mathlib.Order.Filter.AtTopBot.Basic
import SwiftDerive.Proofs.TypeText.Canonical

/-! # Reading types

Types are read back from their text. Reading takes a number of steps, and the rest of the text is
given back with the type; marks behind a type are read one after the other.
-/

namespace SwiftDerive.TypeText

set_option autoImplicit false

/-! ## Enough steps -/

/-- With enough steps, the result is this one. -/
def Eventually {α : Type} (f : Nat → Option α) (a : α) : Prop :=
  ∀ᶠ n in Filter.atTop, f n = some a

namespace Eventually

variable {α β : Type} {f g : Nat → Option α} {a b : α}

theorem of_eq (h : ∀ n, f n = some a) : Eventually f a :=
  Filter.Eventually.of_forall h

theorem congr (h : ∀ n, f n = g n) (hg : Eventually g a) : Eventually f a :=
  hg.mono fun n hn => (h n).trans hn

theorem step (h : ∀ n, f (n + 1) = g n) (hg : Eventually g a) : Eventually f a := by
  rw [Eventually, ← Filter.map_add_atTop_eq_nat 1, Filter.eventually_map]
  exact hg.congr h

theorem continue_with {k : Nat → Option α → Option β} {c : β} (hf : Eventually f a)
    (hk : Eventually (fun n => k n (some a)) c) : Eventually (fun n => k n (f n)) c := by
  filter_upwards [hf, hk] with n hFirst hSecond
  rw [hFirst]
  exact hSecond

theorem bind {k : Nat → α → Option β} {c : β} (hf : Eventually f a)
    (hk : Eventually (fun n => k n a) c) : Eventually (fun n => (f n).bind (k n)) c :=
  hf.continue_with (k := fun n o => o.bind (k n)) hk

theorem unique (hf : Eventually f a) (hg : Eventually f b) : a = b := by
  obtain ⟨n, hFirst, hSecond⟩ := (hf.and hg).exists
  exact Option.some.inj (hFirst.symm.trans hSecond)

end Eventually

/-! ## The reader -/

abbrev Read (α : Type) := Option (α × List Char)

def isTypeChar (c : Char) : Bool := Unicode.isWord c || c == '@'

def splitWord (cs : List Char) : String × List Char :=
  (String.ofList (cs.takeWhile isTypeChar), cs.dropWhile isTypeChar)

def readSeparated {α : Type} (item : List Char → Read α) (separator : List Char) :
    Nat → List Char → Read (List α)
  | 0, _ => none
  | n + 1, cs => (item cs).bind fun (a, rest) =>
    match rest.dropPrefix? separator with
    | none => some ([a], rest)
    | some rest =>
      (readSeparated item separator n rest).bind fun (as, rest) => some (a :: as, rest)

theorem dropPrefix?_append (p rest : List Char) : (p ++ rest).dropPrefix? p = some rest :=
  List.dropPrefix?_append_of_beq rest BEq.rfl

def comma : List Char := [',', ' ']

def ampersand : List Char := [' ', '&', ' ']

def closed {α : Type} (c : Char) (a : α) : List Char → Read α
  | [] => none
  | c' :: rest => if c' = c then some (a, rest) else none

section Parts

variable (read : List Char → Read TypeRef)

def readArguments (n : Nat) : List Char → Read (List TypeRef)
  | '<' :: cs => (readSeparated read comma n cs).bind fun (ts, rest) => closed '>' ts rest
  | cs => some ([], cs)

def label? : TypeRef → List Char → Option (String × Option String × List Char)
  | .named label [], ':' :: ' ' :: rest => some (label, none, rest)
  | .named label [], ' ' :: rest =>
    match splitWord rest with
    | (second, ':' :: ' ' :: rest) => some (label, some second, rest)
    | _ => none
  | _, _ => none

def readVariadic (label second : Option String) (t : TypeRef) :
    List Char → Read (TupleElement TypeRef)
  | '.' :: '.' :: '.' :: rest => some (⟨t, label, second, true⟩, rest)
  | rest => some (⟨t, label, second, false⟩, rest)

/-- An element: a label is first taken for a type. -/
def readElement (cs : List Char) : Read (TupleElement TypeRef) :=
  (read cs).bind fun (t, rest) =>
    match label? t rest with
    | none => readVariadic none none t rest
    | some (label, second, rest) =>
      (read rest).bind fun (t, rest) => readVariadic (some label) second t rest

def readElements (n : Nat) : List Char → Read (List (TupleElement TypeRef))
  | ')' :: cs => some ([], cs)
  | cs => (readSeparated (readElement read) comma n cs).bind fun (es, rest) => closed ')' es rest

structure Arrow where
  isAsync : Bool
  isThrowing : Bool
  thrown : Option TypeRef

def asyncText : List Char := [' ', 'a', 's', 'y', 'n', 'c']

def throwsText : List Char := [' ', 't', 'h', 'r', 'o', 'w', 's']

def arrowText : List Char := [' ', '-', '>', ' ']

def readArrowEnd (arrow : Arrow) (cs : List Char) : Read Arrow :=
  (cs.dropPrefix? arrowText).map fun rest => (arrow, rest)

def readThrows (isAsync : Bool) (cs : List Char) : Read Arrow :=
  match cs.dropPrefix? throwsText with
  | none => readArrowEnd ⟨isAsync, false, none⟩ cs
  | some ('(' :: rest) => (read rest).bind fun
    | (t, ')' :: rest) => readArrowEnd ⟨isAsync, true, some t⟩ rest
    | _ => none
  | some rest => readArrowEnd ⟨isAsync, true, none⟩ rest

def readArrow (cs : List Char) : Read Arrow :=
  match cs.dropPrefix? asyncText with
  | none => readThrows read false cs
  | some rest => readThrows read true rest

end Parts

/-- The type that elements in parentheses stand for where no arrow follows. -/
def unwrapped : List (TupleElement TypeRef) → TypeRef
  | [⟨t, none, none, false⟩] => t
  | es => .tuple es

def readParenthesized (read : List Char → Read TypeRef)
    (readMarks : TypeRef → List Char → Read TypeRef)
    (es : List (TupleElement TypeRef)) (cs : List Char) : Read Arrow → Read TypeRef
  | none => readMarks (unwrapped es) cs
  | some (arrow, rest) => (read rest).bind fun (result, rest) =>
    some (.function es result arrow.isAsync arrow.isThrowing arrow.thrown, rest)

def united : List TypeRef → TypeRef
  | [t] => t
  | ts => .composition ts

section Reader

variable (v : Vocabulary) [DecidablePred v.IsSpecifier]

def specifier? (cs : List Char) : Option (String × List Char) :=
  match splitWord cs with
  | (word, ' ' :: rest) => if v.IsSpecifier word then some (word, rest) else none
  | _ => none

mutual

def readType : Nat → List Char → Read TypeRef
  | 0, _ => none
  | n + 1, cs =>
    match specifier? v cs with
    | some (word, rest) => (readType n rest).bind fun (t, rest) =>
      some (t.attributedWith [word], rest)
    | none => (readSeparated (readUnit n) ampersand n cs).bind fun (ts, rest) =>
      some (united ts, rest)

def readUnit : Nat → List Char → Read TypeRef
  | 0, _ => none
  | n + 1, '(' :: cs => (readElements (readType n) n cs).bind fun (es, rest) =>
    readParenthesized (readType n) (readMarks n) es rest (readArrow (readType n) rest)
  | n + 1, '[' :: cs => (readType n cs).bind fun
    | (t, ']' :: rest) => readMarks n (.array t) rest
    | (key, ':' :: ' ' :: rest) => (readType n rest).bind fun
      | (value, ']' :: rest) => readMarks n (.dictionary key value) rest
      | _ => none
    | _ => none
  | n + 1, cs => (readArguments (readType n) n (splitWord cs).2).bind fun (ts, rest) =>
    readMarks n (.named (splitWord cs).1 ts) rest

def readMarks : Nat → TypeRef → List Char → Read TypeRef
  | 0, _, _ => none
  | n + 1, t, '?' :: cs => readMarks n (.optional t false) cs
  | n + 1, t, '!' :: cs => readMarks n (.optional t true) cs
  | n + 1, t, '.' :: cs =>
    if (splitWord cs).1 = "" then some (t, '.' :: cs)
    else if (splitWord cs).1 = "Type" ∨ (splitWord cs).1 = "Protocol" then
      readMarks n (.metatype t (splitWord cs).1) (splitWord cs).2
    else (readArguments (readType n) n (splitWord cs).2).bind fun (ts, rest) =>
      readMarks n (.member t (splitWord cs).1 ts) rest
  | _ + 1, t, cs => some (t, cs)

end

end Reader

end SwiftDerive.TypeText
