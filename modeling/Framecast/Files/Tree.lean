import Framecast.Bytes
import Framecast.Files.Path

/-!
# File trees

A tree of directories and files, with the operations that commands need.  An
operation looks at every directory on the way before it looks at the last name, and
refuses a name that is too long when its turn comes.
-/

namespace Framecast.Files

inductive Node where
  | directory
  | file (contents : Bytes)
deriving Repr, DecidableEq

/-- Directories and files with their paths; the root is always a directory. -/
structure Tree where
  entries : List (Path × Node)
  /-- The directory that other paths than those from the root start at. -/
  working : Path
deriving Repr, DecidableEq

namespace Tree

def empty : Tree := ⟨[], .root⟩

def lookup (tree : Tree) (path : Path) : Option Node :=
  if path = .root then some .directory
  else (tree.entries.find? fun entry => entry.1 = path).map Prod.snd

def put (tree : Tree) (path : Path) (node : Node) : Tree :=
  { tree with
    entries := (tree.entries.filter fun entry => entry.1 ≠ path) ++ [(path, node)] }

theorem find?_without_same (entries : List (Path × Node)) (path : Path) :
    (entries.filter fun entry => entry.1 ≠ path).find? (fun entry => entry.1 = path) =
      none := by
  induction entries with
  | nil => rfl
  | cons entry rest ih => by_cases hentry : entry.1 = path <;> simp_all

theorem find?_without_other (entries : List (Path × Node)) {path other : Path}
    (hother : other ≠ path) :
    (entries.filter fun entry => entry.1 ≠ path).find? (fun entry => entry.1 = other) =
      entries.find? (fun entry => entry.1 = other) := by
  induction entries with
  | nil => rfl
  | cons entry rest ih =>
      by_cases hentry : entry.1 = path
      · have hskip : entry.1 ≠ other := fun h => hother (h.symm.trans hentry)
        rw [List.filter_cons_of_neg (by simpa using hentry),
          List.find?_cons_of_neg (by simpa using hskip), ih]
      · rw [List.filter_cons_of_pos (by simpa using hentry)]
        by_cases hhit : entry.1 = other
        · rw [List.find?_cons_of_pos (by simpa using hhit),
            List.find?_cons_of_pos (by simpa using hhit)]
        · rw [List.find?_cons_of_neg (by simpa using hhit),
            List.find?_cons_of_neg (by simpa using hhit), ih]

theorem lookup_put (tree : Tree) (path other : Path) (node : Node) (hpath : path ≠ .root) :
    (tree.put path node).lookup other =
      if other = path then some node else tree.lookup other := by
  unfold lookup put
  by_cases hsame : other = path
  · subst hsame
    rw [if_neg hpath, if_pos rfl, List.find?_append, find?_without_same]
    simp
  · rw [if_neg hsame, List.find?_append, find?_without_other tree.entries hsame,
      List.find?_cons_of_neg (by simpa using fun h => hsame h.symm)]
    simp

/-- Where the names of a path text start. -/
def start (tree : Tree) (text : String) : Path :=
  if PathText.fromRoot text then .root else tree.working

/-- One name further along, unless the name is too long. -/
def advance (path : Path) (name : String) : Except FileFault Path :=
  if PathText.longestName < name.utf8ByteSize then .error .nameTooLong
  else .ok (path.follow name)

/-- Follow names that must all lead to directories. -/
def descend (tree : Tree) (path : Path) : List String → Except FileFault Path
  | [] => .ok path
  | name :: rest => do
      let next ← advance path name
      match tree.lookup next with
      | none => .error .missing
      | some (.file _) => .error .notDirectory
      | some .directory => tree.descend next rest

/-- The directory that the last name of a text is looked up in. -/
def enter (tree : Tree) (text : String) : Except FileFault Path := do
  PathText.check text
  tree.descend (tree.start text) (PathText.names text).dropLast

/-- The path that the last name of a text leads to from its directory. -/
def finish (directory : Path) (text : String) : Except FileFault Path :=
  (PathText.names text).getLast?.elim (.ok directory) (advance directory)

def read (tree : Tree) (text : String) : Except FileFault Bytes := do
  let path ← finish (← tree.enter text) text
  match tree.lookup path with
  | none => .error .missing
  | some .directory => .error .isDirectory
  | some (.file contents) =>
      if PathText.meansDirectory text then .error .notDirectory else .ok contents

def write (tree : Tree) (text : String) (contents : Bytes) : Except FileFault Tree := do
  let directory ← tree.enter text
  if PathText.meansDirectory text then .error .isDirectory
  else
    let path ← finish directory text
    match tree.lookup path with
    | some .directory => .error .isDirectory
    | _ => .ok (tree.put path (.file contents))

/-- Whether nothing but single dots, and at least one, is left to follow. -/
def onlyDots (rest : List String) : Bool :=
  !rest.isEmpty && rest.all (· = ".")

/-- Create the directories that are missing along some names.  Until something has been
created the names are tried all at once, so that a file before the last one is no
directory to look into; from then on they are tried one by one, and the file is found to
exist.  A name with single dots after it is only looked into, never created. -/
def makeAlong (tree : Tree) (path : Path) (created : Bool) :
    List String → Except FileFault Tree
  | [] => .ok tree
  | name :: rest => do
      let next ← advance path name
      match tree.lookup next with
      | some .directory => tree.makeAlong next created rest
      | some (.file _) =>
          .error (if rest.isEmpty || created && !onlyDots rest then .exists
            else .notDirectory)
      | none =>
          if onlyDots rest then .error .missing
          else (tree.put next .directory).makeAlong next true rest

def makeDirectories (tree : Tree) (text : String) : Except FileFault Tree :=
  if text = "" then .ok tree
  else do
    PathText.check text
    tree.makeAlong (tree.start text) false (PathText.names text)

/-- The files below a directory, with their names from there on. -/
def filesBelow (tree : Tree) (directory : Path) : List (String × Bytes) :=
  tree.entries.filterMap fun (path, node) =>
    match node with
    | .directory => none
    | .file contents => (directory.nameBelow? path).map fun name => (name, contents)

end Tree

end Framecast.Files
