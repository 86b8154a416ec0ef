import SwiftDerive.Text.Blank
import SwiftDerive.Unicode.CellWidth
import SwiftDerive.Unicode.EmojiName

/-! # Markup

The markup of titles and of the cells of a table. Tags in brackets, which would set a style, are no
text, and a name between colons stands for an emoji.
-/

namespace SwiftDerive.Console

set_option autoImplicit false

def startsTag (c : Char) : Bool := ('a' ≤ c && c ≤ 'z') || c == '#' || c == '/' || c == '@'

/-- What follows the tag that an opening bracket starts, if it starts one: a tag ends with the
first closing bracket and has no opening one inside. -/
def behindTag? (cs : List Char) : Option (List Char) :=
  match cs with
  | [] => none
  | first :: _ =>
    match cs.tail.dropWhile fun c => c != ']' && c != '[' with
    | ']' :: rest => if startsTag first then some rest else none
    | _ => none

theorem length_lt_of_behindTag? {cs rest : List Char} (h : behindTag? cs = some rest) :
    rest.length < cs.length := by
  unfold behindTag? at h
  split at h
  · cases h
  · rename_i first cs
    split at h
    · rename_i heq
      have hle := (List.dropWhile_sublist (fun c => c != ']' && c != '[') (l := cs)).length_le
      simp only [List.tail_cons] at heq
      rw [heq] at hle
      split at h
      · cases h
        simp only [List.length_cons] at hle ⊢
        omega
      · cases h
    · cases h

inductive Piece where
  | plain (cs : List Char)
  | tag
  deriving DecidableEq, Repr

def prependPlain (cs : List Char) : List Piece → List Piece
  | .plain piece :: pieces => .plain (cs ++ piece) :: pieces
  | pieces => .plain cs :: pieces

/-- The pieces of a text; `escapes` backslashes stand in front of it. Of backslashes in front of a
tag each two are one, and a single one takes its meaning from the tag. Such backslashes and tags
are pieces of their own. -/
def piecesFrom (escapes : Nat) (cs : List Char) : List Piece :=
  match cs with
  | [] => [.plain (List.replicate escapes '\\')]
  | '\\' :: cs => piecesFrom (escapes + 1) cs
  | '[' :: cs =>
    match _h : behindTag? cs with
    | some rest =>
      .plain [] :: .plain (List.replicate (escapes / 2) '\\') ::
        (if escapes % 2 = 1 then .plain ('[' :: cs.take (cs.length - rest.length)) else .tag) ::
        piecesFrom 0 rest
    | none => prependPlain (List.replicate (escapes - 1) '\\' ++ ['[']) (piecesFrom 0 cs)
  | c :: cs => prependPlain (List.replicate escapes '\\' ++ [c]) (piecesFrom 0 cs)
termination_by cs.length
decreasing_by
  · exact Nat.lt_succ_self _
  · exact Nat.lt_succ_of_lt (length_lt_of_behindTag? _h)
  · exact Nat.lt_succ_self _
  · exact Nat.lt_succ_self _

/-- The ways to show an emoji that a code may end with, each with the selector for it. -/
def emojiVariants : List (List Char × Char) :=
  [("-emoji".toList, Unicode.emojiSelector), ("-text".toList, '\uFE0E')]

def emojiOf? (code : List Char) : Option (List Char) :=
  match emojiVariants.find? fun variant => variant.1.isSuffixOf code with
  | some (ending, selector) =>
    (Unicode.emojiNamed? (code.take (code.length - ending.length))).map (· ++ [selector])
  | none => Unicode.emojiNamed? code

/-- The text between a colon in front of the given text and the next colon, if it has no blanks. -/
def codeBehindColon? (cs : List Char) : Option (List Char) :=
  let code := cs.takeWhile fun c => c != ':' && !Text.isBlank c
  if (cs.drop code.length).head? = some ':' then some code else none

/-- The text with emoji for their codes, behind `skipped` characters that belong to a code already
read. A colon ends at most one code, also where the code names no emoji. -/
def withEmojiFrom : (skipped : Nat) → List Char → List Char
  | _, [] => []
  | skipped + 1, _ :: cs => withEmojiFrom skipped cs
  | 0, c :: cs =>
    match if c = ':' then codeBehindColon? cs else none with
    | some code =>
      (emojiOf? code).getD (':' :: code ++ [':']) ++ withEmojiFrom (code.length + 1) cs
    | none => c :: withEmojiFrom 0 cs

def Piece.text : Piece → List Char
  | .plain cs => withEmojiFrom 0 cs
  | .tag => []

def pieces (cs : List Char) : List Piece := piecesFrom 0 cs

def withoutMarkup (cs : List Char) : List Char := (pieces cs).flatMap Piece.text

end SwiftDerive.Console
