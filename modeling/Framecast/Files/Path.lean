import Framecast.Files.Fault

/-!
# Paths

A path is a place in a tree of directories.  A path text says how to get there: a
list of names between slashes, from the root on if a slash comes first, and from the
working directory on otherwise.  Names and path texts have a longest size, which
counts in bytes.
-/

namespace Framecast.Files

/-- A place in a tree: the names on the way from the root, each after a slash. -/
structure Path where
  text : String
deriving Repr, DecidableEq

namespace Path

def root : Path := ⟨""⟩

def child (path : Path) (name : String) : Path := ⟨path.text ++ "/" ++ name⟩

/-- The directory that a place is in; the root is in itself. -/
def parent (path : Path) : Path :=
  ⟨String.ofList ((path.text.toList.reverse.dropWhile (· ≠ '/')).drop 1).reverse⟩

def ofNames (names : List String) : Path := names.foldl child root

def follow (path : Path) (name : String) : Path :=
  if name = "." then path
  else if name = ".." then path.parent
  else path.child name

/-- The names from a directory to a place below it, with slashes between them. -/
def nameBelow? (directory path : Path) : Option String :=
  let start := (directory.text ++ "/").toList
  if start.isPrefixOf path.text.toList then
    some (String.ofList (path.text.toList.drop start.length))
  else none

theorem child_ne_root (path : Path) (name : String) : path.child name ≠ root := by
  intro h
  have hlength := congrArg (fun place => place.text.toList.length) h
  simp [child, root] at hlength

theorem child_inj (path : Path) {name other : String} :
    path.child name = path.child other ↔ name = other := by
  constructor
  · intro h
    have htext : (path.child name).text.toList = (path.child other).text.toList := by rw [h]
    simp only [child, String.toList_append, List.append_cancel_left_eq] at htext
    exact String.toList_injective htext
  · intro h
    rw [h]

end Path

namespace PathText

def longestName : Nat := 255

def longest : Nat := 4095

def names (text : String) : List String :=
  ((text.toList.splitOn '/').filter (· ≠ [])).map String.ofList

def fromRoot (text : String) : Bool :=
  text.toList.head? == some '/'

def endsInSlash (text : String) : Bool :=
  text.toList.getLast? == some '/'

def meansDirectory (text : String) : Bool :=
  endsInSlash text || (names text).getLast? == some "." ||
    (names text).getLast? == some ".."

def check (text : String) : Except FileFault Unit :=
  if text.toList.any (· = '\x00') then .error .zeroInName
  else if text = "" then .error .missing
  else if longest < text.utf8ByteSize then .error .nameTooLong
  else .ok ()

/-- The path text of a name below a directory; a name from the root on needs none. -/
def below (directory name : String) : String :=
  if directory = "" || fromRoot name then name
  else if endsInSlash directory then directory ++ name
  else directory ++ "/" ++ name

theorem names_empty : names "" = [] := by
  simp [names]

theorem names_single {name : String} (hname : name ≠ "") (hslash : '/' ∉ name.toList) :
    names name = [name] := by
  have hchars : name.toList ≠ [] := fun h => hname (String.toList_eq_nil_iff.1 h)
  simp [names, List.splitOn_eq_singleton hslash, hchars]

theorem names_ofList_slash (front back : List Char) :
    names (String.ofList (front ++ '/' :: back)) =
      names (String.ofList front) ++ names (String.ofList back) := by
  simp only [names, String.toList_ofList, List.splitOn_append_cons_self,
    List.filter_append, List.map_append]

theorem names_below (directory : String) {name : String} (hname : name ≠ "")
    (hslash : '/' ∉ name.toList) : names (below directory name) = names directory ++ [name] := by
  have hroot : fromRoot name = false := by
    rw [fromRoot, beq_eq_false_iff_ne]
    exact fun hfirst => hslash (List.mem_of_mem_head? hfirst)
  unfold below
  rw [hroot, Bool.or_false]
  by_cases hempty : directory = ""
  · rw [if_pos (by simpa using hempty), hempty, names_empty, names_single hname hslash,
      List.nil_append]
  rw [if_neg (by simpa using hempty)]
  by_cases hend : endsInSlash directory = true
  · obtain ⟨front, hfront⟩ := List.getLast?_eq_some_iff.1 (beq_iff_eq.1 hend)
    have hdirectory : directory = String.ofList (front ++ '/' :: []) := by
      rw [← hfront, String.ofList_toList]
    have hwhole : directory ++ name = String.ofList (front ++ '/' :: name.toList) := by
      apply String.toList_injective
      rw [String.toList_append, hfront, String.toList_ofList, List.append_assoc]
      rfl
    rw [if_pos hend, hwhole, names_ofList_slash, String.ofList_toList,
      names_single hname hslash]
    rw [hdirectory, names_ofList_slash]
    simp only [String.ofList_nil, names_empty, List.append_nil]
  · have hwhole : directory ++ "/" ++ name =
        String.ofList (directory.toList ++ '/' :: name.toList) := by
      apply String.toList_injective
      simp only [String.toList_append, String.toList_ofList, List.append_assoc]
      rfl
    rw [if_neg hend, hwhole, names_ofList_slash, String.ofList_toList,
      String.ofList_toList, names_single hname hslash]

end PathText

end Framecast.Files
