import SwiftDerive.Entries
import SwiftDerive.Files.Path
import SwiftDerive.Text.Lines
import SwiftDerive.Text.Quoted
import SwiftDerive.Text.Utf8

/-! # Trees of files

A folder has files and folders under their names. The tree of all files is a folder; it is at once
the root of all paths and the folder in which the program runs.
-/

namespace SwiftDerive

set_option autoImplicit false

inductive Entry where
  | file (bytes : List UInt8)
  /-- A file that cannot be opened, with the reason that the system gives. -/
  | locked (reason : String)
  | folder (children : List (String × Entry))

inductive FileFault where
  /-- A folder was to be made where there is a file. -/
  | taken (path : Path)
  /-- A file stands on the way. -/
  | notFolder (path : Path)
  | isFolder (path : Path)
  | longName (path : Path)
  | locked (reason : String) (path : Path)
  | notText (fault : Text.Utf8Fault)

def byteText (b : UInt8) : String := "0x" ++ String.ofList (Text.hexDigits 2 b.toNat)

def Text.Utf8Fault.message (f : Text.Utf8Fault) : String :=
  "'utf-8' codec can't decode " ++
    (match f.bytes with
      | [b] => "byte " ++ byteText b ++ " in position " ++ toString f.start
      | bytes => "bytes in position " ++ toString f.start ++ "-" ++
        toString (f.start + bytes.length - 1)) ++
    ": " ++ f.problem.message

def FileFault.message : FileFault → String
  | .taken path => "[Errno 17] File exists: " ++ Text.quoted path.render
  | .notFolder path => "[Errno 20] Not a directory: " ++ Text.quoted path.render
  | .isFolder path => "[Errno 21] Is a directory: " ++ Text.quoted path.render
  | .longName path => "[Errno 36] File name too long: " ++ Text.quoted path.render
  | .locked reason path => reason ++ ": " ++ Text.quoted path.render
  | .notText fault => fault.message

def fitsFolder (name : String) : Bool := name.utf8ByteSize ≤ 255

namespace Entry

def isFolder : Entry → Bool
  | .file _ | .locked _ => false
  | .folder _ => true

def below? : Entry → List String → Option Entry
  | e, [] => some e
  | .file _, _ :: _ | .locked _, _ :: _ => none
  | .folder children, name :: names => (children.lookup name).bind (·.below? names)

/-- The names that lead straight down to where the names lead, behind `above`; two dots lead one
folder up. -/
def straight? (tree : Entry) (above : List String) : List String → Option (List String)
  | [] => some above
  | ".." :: names =>
    match tree.below? above with
    | some (.folder _) => tree.straight? above.dropLast names
    | _ => none
  | name :: names =>
    match tree.below? (above ++ [name]) with
    | some _ => tree.straight? (above ++ [name]) names
    | none => none

def find? (tree : Entry) (path : Path) : Option Entry :=
  (tree.straight? [] path.names).bind tree.below?

/-- The tree with an entry put under names; folders on the way are made where they are missing. -/
def put : Entry → List String → Entry → Entry
  | _, [], new => new
  | .file bytes, _ :: _, _ => .file bytes
  | .locked reason, _ :: _, _ => .locked reason
  | .folder children, name :: names, new =>
    .folder (putEntry name (((children.lookup name).getD (.folder [])).put names new) children)

/-- The tree with all folders along the names, and where they lead. As long as nothing had to be
made, `whole` is the path that is told of in a fault, and then the path as far as it was made:
`here` is the path in front of the names. -/
def withFolders (tree : Entry) (above : List String) (here : Path) (whole : Option Path) :
    List String → Except FileFault (Entry × List String)
  | [] => .ok (tree, above)
  | ".." :: names => tree.withFolders above.dropLast (here.append [".."]) whole names
  | name :: names =>
    let next := here.append [name]
    let blamed := whole.getD next
    match tree.below? (above ++ [name]) with
    | some (.folder _) => tree.withFolders (above ++ [name]) next whole names
    | some (.file _) | some (.locked _) =>
      .error (if blamed = next then .taken next else .notFolder blamed)
    | none =>
      if fitsFolder name then
        (tree.put (above ++ [name]) (.folder [])).withFolders (above ++ [name]) next none names
      else .error (.longName blamed)

def makeFolder (tree : Entry) (path : Path) : Except FileFault (Entry × List String) :=
  tree.withFolders [] ⟨path.root, []⟩ (some path) path.names

/-- The tree with a text in a file at a path, whose folder is made if it is missing. -/
def write (tree : Entry) (path : Path) (text : String) : Except FileFault Entry := do
  let (tree, above) ← tree.makeFolder path.parent
  let names := above ++ [path.name]
  match tree.below? names with
  | some (.folder _) => throw (.isFolder path)
  | some (.locked reason) => throw (.locked reason path)
  | _ => return tree.put names (.file text.toUTF8.data.toList)

/-- The text in the bytes of a file, line feeds for all its line ends. -/
def textOf (bytes : List UInt8) : Except Text.Utf8Fault String :=
  (Text.decodeUtf8 bytes).map fun cs => String.ofList (Text.universalNewlines cs)

def read (path : Path) : Entry → Except FileFault String
  | .folder _ => .error (.isFolder path)
  | .locked reason => .error (.locked reason path)
  | .file bytes => (textOf bytes).mapError .notText

mutual

/-- The files of an entry that stands under the given names, as far as they can be opened. -/
def files (above : List String) : Entry → List (List String × List UInt8)
  | .file bytes => [(above, bytes)]
  | .locked _ => []
  | .folder children => filesIn above children

def filesIn (above : List String) : List (String × Entry) → List (List String × List UInt8)
  | [] => []
  | (name, e) :: children => e.files (above ++ [name]) ++ filesIn above children

end

end Entry

end SwiftDerive
