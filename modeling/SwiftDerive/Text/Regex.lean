import SwiftDerive.Unicode.Word

/-! # Regular expressions

Expressions that match a part of a text. The ways to match are tried in order, and the first one
counts. Parts of an expression may be marked: a match tells where they start and end.
-/

namespace SwiftDerive.Text

set_option autoImplicit false

inductive Regex where
  | char (p : Char → Bool)
  | empty
  | seq (first second : Regex)
  | either (first second : Regex)
  /-- A part from `least` to `most` times, as often as possible or, if `lazy`, as seldom. -/
  | repeated (lazy : Bool) (least : Nat) (most : Option Nat) (part : Regex)
  | marked (part : Regex)
  /-- The start or the end of a word, or a place that is neither. -/
  | wordEdge (there : Bool)
  | notBehind (p : Char → Bool)

/-- A place in a text: how many characters stand before it, the last of them, what follows, and
the edges of the marked parts on the way to it. -/
structure Place where
  offset : Nat
  before : Option Char
  ahead : List Char
  edges : List Nat

def Place.behind (p : Place) (c : Char) (cs : List Char) : Place :=
  { p with offset := p.offset + 1, before := some c, ahead := cs }

/-- The place with the edges of a part that started at an offset; an empty part has none. -/
def Place.withPart (p : Place) (start : Nat) : Place :=
  if start < p.offset then { p with edges := start :: p.offset :: p.edges } else p

def Place.isWordEdge (p : Place) : Bool :=
  p.before.any Unicode.isWord != p.ahead.head?.any Unicode.isWord

/-- Goes on behind the turns of a part, of which there are between `least` and `most`. -/
def repeatedFrom (turn : (Place → Option Place) → Place → Option Place) (lazy : Bool)
    (goOn : Place → Option Place) : (least most : Nat) → Place → Option Place
  | least, 0, p => if least = 0 then goOn p else none
  | least, most + 1, p =>
    let further := fun (_ : Unit) => turn (repeatedFrom turn lazy goOn (least - 1) most) p
    if least ≠ 0 then further ()
    else if lazy then (goOn p).orElse further
    else (further ()).orElse fun _ => goOn p

namespace Regex

/-- Goes on at the places behind a match, in order, until that leads somewhere. Without a limit on
the turns of a part the rest of the text is one, because a turn takes a character. -/
def run : Regex → (Place → Option Place) → Place → Option Place
  | .char test, goOn, p =>
    match p.ahead with
    | c :: cs => if test c then goOn (p.behind c cs) else none
    | [] => none
  | .empty, goOn, p => goOn p
  | .seq first second, goOn, p => first.run (fun q => second.run goOn q) p
  | .either first second, goOn, p => (first.run goOn p).orElse fun _ => second.run goOn p
  | .repeated lazy least most part, goOn, p =>
    repeatedFrom part.run lazy goOn least (most.getD p.ahead.length) p
  | .marked part, goOn, p => part.run (fun q => goOn (q.withPart p.offset)) p
  | .wordEdge there, goOn, p => if p.isWordEdge = there then goOn p else none
  | .notBehind test, goOn, p => if p.before.any test then none else goOn p

/-- The edges of the marked parts of all matches, each of which starts behind the one before it.
The text stands behind `skipped` characters that belong to a match. -/
def edgesFrom (r : Regex) (offset : Nat) (before : Option Char) :
    (skipped : Nat) → List Char → List Nat
  | _, [] => []
  | skipped + 1, c :: cs => r.edgesFrom (offset + 1) (some c) skipped cs
  | 0, c :: cs =>
    match r.run some ⟨offset, before, c :: cs, []⟩ with
    | some stop =>
      stop.edges ++ r.edgesFrom (offset + 1) (some c) (stop.offset - offset - 1) cs
    | none => r.edgesFrom (offset + 1) (some c) 0 cs

def edges (r : Regex) (cs : List Char) : List Nat := r.edgesFrom 0 none 0 cs

def literal (text : String) : Regex :=
  text.toList.foldr (fun c rest => .seq (.char (· == c)) rest) .empty

def all (parts : List Regex) : Regex := parts.foldr .seq .empty

def oneOf : List Regex → Regex
  | [] => .char fun _ => false
  | [last] => last
  | part :: parts => .either part (oneOf parts)

def optional (part : Regex) : Regex := .repeated false 0 (some 1) part

def chars (p : Char → Bool) : Regex := .repeated false 0 none (.char p)

def someChars (p : Char → Bool) : Regex := .repeated false 1 none (.char p)

def charsBetween (least most : Nat) (p : Char → Bool) : Regex :=
  .repeated false least (some most) (.char p)

def fewChars (p : Char → Bool) : Regex := .repeated true 0 none (.char p)

end Regex

end SwiftDerive.Text
