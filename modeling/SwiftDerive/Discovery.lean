import SwiftDerive.Files.Tree
import SwiftDerive.Ignore.Rules

/-! # Discovery

The source files of a folder: all files below it with the ending of source files, without those
that an ignore matcher takes out and those in a folder that it takes out. The folders wait in a
queue; those in a folder that is visited wait behind all others. The matcher comes from the files of
patterns in the folder.
-/

namespace SwiftDerive

set_option autoImplicit false

namespace Entry

mutual

def folderCount : Entry → Nat
  | .file _ | .locked _ => 0
  | .folder children => folderCountIn children + 1

def folderCountIn : List (String × Entry) → Nat
  | [] => 0
  | (_, e) :: children => e.folderCount + folderCountIn children

end

end Entry

namespace Discovery

/-- Tells of a path below the walked folder, and whether a folder is there, if it is passed over. -/
abbrev Matcher := (path : String) → (isFolder : Bool) → Bool

def hiddenFolder : String := ".git"

def patternFile : String := ".gitignore"

def passes (ignored : Matcher) (names : List String) (e : Entry) : Bool :=
  (e.isFolder && names.getLast? == some hiddenFolder) ||
    ignored (Path.joined names) e.isFolder

def listing (above : List String) (children : List (String × Entry)) :
    List (List String × Entry) :=
  (children.mergeSort fun a b => decide (a.1 ≤ b.1)).map fun (name, e) => (above ++ [name], e)

def keptEntries (ignored : Matcher) (above : List String) (children : List (String × Entry)) :
    List (List String × Entry) :=
  (listing above children).filter fun (names, e) => !passes ignored names e

def isSource (names : List String) (e : Entry) : Bool :=
  !e.isFolder && isSourceName (names.getLast?.getD "")

def sourcesAmong (entries : List (List String × Entry)) : List (List String × Entry) :=
  entries.filter fun (names, e) => isSource names e

/-- A folder that a walk has yet to visit: the names that lead to it, and its entries. -/
abbrev Waiting := List String × List (String × Entry)

def foldersAmong (entries : List (List String × Entry)) : List Waiting :=
  entries.filterMap fun
    | (names, .folder children) => some (names, children)
    | _ => none

/-- The number of folders in and below the folders of a queue. -/
def queueCount : List Waiting → Nat
  | [] => 0
  | (_, children) :: queue => Entry.folderCountIn children + 1 + queueCount queue

theorem queueCount_append (queue behind : List Waiting) :
    queueCount (queue ++ behind) = queueCount queue + queueCount behind := by
  induction queue with
  | nil => simp [queueCount]
  | cons folder queue ih =>
    rw [List.cons_append, queueCount, queueCount, ih]
    omega

theorem queueCount_le_of_sublist {queue later : List Waiting} (h : queue.Sublist later) :
    queueCount queue ≤ queueCount later := by
  induction h with
  | slnil => exact Nat.le_refl _
  | cons folder _ ih =>
    rw [queueCount]
    omega
  | cons_cons folder _ ih =>
    rw [queueCount, queueCount]
    omega

theorem queueCount_perm {queue other : List Waiting} (h : queue.Perm other) :
    queueCount queue = queueCount other := by
  induction h with
  | nil => rfl
  | cons folder _ ih => rw [queueCount, queueCount, ih]
  | swap folder next queue =>
    simp only [queueCount]
    omega
  | trans _ _ ihFirst ihSecond => exact ihFirst.trans ihSecond

theorem queueCount_foldersAmong (above : List String) (children : List (String × Entry)) :
    queueCount (foldersAmong (children.map fun (name, e) => (above ++ [name], e))) =
      Entry.folderCountIn children := by
  induction children with
  | nil => rfl
  | cons child children ih =>
    obtain ⟨name, e⟩ := child
    rw [Entry.folderCountIn, ← ih]
    cases e with
    | file bytes => simp [foldersAmong, Entry.folderCount]
    | locked reason => simp [foldersAmong, Entry.folderCount]
    | folder inner => simp [foldersAmong, Entry.folderCount, queueCount]

theorem queueCount_keptEntries_le (ignored : Matcher) (above : List String)
    (children : List (String × Entry)) :
    queueCount (foldersAmong (keptEntries ignored above children)) ≤
      Entry.folderCountIn children := by
  have hKept : (foldersAmong (keptEntries ignored above children)).Sublist
      (foldersAmong (listing above children)) := List.filter_sublist.filterMap _
  have hSorted : (foldersAmong (listing above children)).Perm
      (foldersAmong (children.map fun (name, e) => (above ++ [name], e))) :=
    ((List.mergeSort_perm children _).map _).filterMap _
  rw [← queueCount_foldersAmong above children, ← queueCount_perm hSorted]
  exact queueCount_le_of_sublist hKept

/-- The source files in and below the folders of a queue. -/
def walk (ignored : Matcher) : List Waiting → List (List String × Entry)
  | [] => []
  | (above, children) :: queue =>
    sourcesAmong (keptEntries ignored above children) ++
      walk ignored (queue ++ foldersAmong (keptEntries ignored above children))
termination_by queue => queueCount queue
decreasing_by
  have hLess := queueCount_keptEntries_le ignored above children
  have hHead : queueCount ((above, children) :: queue) =
      Entry.folderCountIn children + 1 + queueCount queue := rfl
  rw [queueCount_append, hHead]
  omega

/-- Names in the order of their characters, those of outer folders first. -/
def inOrder {α : Type} (found : List (List String × α)) : List (List String × α) :=
  found.mergeSort fun a b => !b.1.lex a.1

def sources (ignored : Matcher) (children : List (String × Entry)) :
    List (List String × Entry) :=
  inOrder (walk ignored [([], children)])

mutual

def patternFilesAt (above : List String) : Entry → List (List String × Entry)
  | .file _ | .locked _ => []
  | .folder children => patternFilesIn above children

def patternFilesIn (above : List String) :
    List (String × Entry) → List (List String × Entry)
  | [] => []
  | (name, e) :: children =>
    (if name = patternFile then [(above ++ [name], e)] else []) ++
      patternFilesAt (above ++ [name]) e ++ patternFilesIn above children

end

structure RuleLine where
  folder : List String
  text : Text.Line

def RuleLine.pattern? (l : RuleLine) : Option Ignore.Pattern :=
  Ignore.pattern? (Ignore.movedLine (Path.joined l.folder).toList l.text)

def patternsOf (lines : List RuleLine) : List Ignore.Pattern :=
  lines.filterMap RuleLine.pattern?

def linesOf (root : Path) (names : List String) (e : Entry) : Except FileFault (List RuleLine) := do
  let text ← e.read (root.append names)
  return (Text.allLines text.toList).map fun line => ⟨names.dropLast, line⟩

def ruleLines (root : Path) (children : List (String × Entry)) :
    Except FileFault (List RuleLine) := do
  let found ← (inOrder (patternFilesIn [] children)).mapM fun (names, e) => linesOf root names e
  return found.flatten

inductive Fault where
  | missing (path : Path)
  | notSource (path : Path)
  | patternFile (fault : FileFault)

def Fault.message : Fault → String
  | .missing path => "Path does not exist: " ++ path.render
  | .notSource path => "Path must be a .swift file: " ++ path.render
  | .patternFile fault => "Failed to read .gitignore files: " ++ fault.message

/-- A source file: its path, its names below the walked folder, and what stands there. -/
structure Found where
  path : Path
  names : List String
  entry : Entry

def Found.read (file : Found) : Except FileFault String :=
  file.entry.read file.path

def requireFile (tree : Entry) (path : Path) : Except Fault Found :=
  match tree.find? path with
  | none => .error (.missing path)
  | some e => if isSource path.names e then .ok ⟨path, [path.name], e⟩ else .error (.notSource path)

/-- The source files at a path: the file itself, or those of the folder. -/
def discover (tree : Entry) (path : Path) : Except Fault (List Found) :=
  match tree.find? path with
  | some (.folder children) =>
    match ruleLines path children with
    | .error fault => .error (.patternFile fault)
    | .ok lines =>
      .ok ((sources (Ignore.skips (patternsOf lines)) children).map fun (names, e) =>
        ⟨path.append names, names, e⟩)
  | _ => (requireFile tree path).map fun file => [file]

end Discovery

end SwiftDerive
