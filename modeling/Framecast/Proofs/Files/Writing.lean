import Framecast.Files.Tree

/-!
# Writing and reading files

A path text reaches a place, and what is written there reads back.  A file takes the
place of no directory, so every text that led somewhere before the writing still leads
there afterwards, and no other place changes.
-/

namespace Framecast.Files

theorem PathText.check_eq_ok_iff {text : String} :
    check text = .ok () ↔
      '\x00' ∉ text.toList ∧ text ≠ "" ∧ text.utf8ByteSize ≤ longest := by
  unfold check
  by_cases hzero : '\x00' ∈ text.toList
  · simp [hzero]
  by_cases hempty : text = ""
  · simp [hempty]
  by_cases hlong : longest < text.utf8ByteSize
  · simp [hzero, hempty, hlong, Nat.not_le.mpr hlong]
  · simp [hzero, hempty, hlong, Nat.le_of_not_lt hlong]

namespace Tree

/-! ## The way to a place -/

theorem bind_eq_ok_iff {α β : Type} {first : Except FileFault α}
    {second : α → Except FileFault β} {result : β} :
    first >>= second = .ok result ↔
      ∃ value, first = .ok value ∧ second value = .ok result := by
  cases first with
  | error fault => simp [bind, Except.bind]
  | ok value => simp [bind, Except.bind]

/-- No directory is lost from one tree to the other, the working directory included. -/
structure Keeps (tree after : Tree) : Prop where
  working_eq : after.working = tree.working
  directory : ∀ path, tree.lookup path = some .directory →
    after.lookup path = some .directory

theorem Keeps.refl (tree : Tree) : tree.Keeps tree :=
  ⟨rfl, fun _ h => h⟩

theorem Keeps.trans {tree middle after : Tree} (h : tree.Keeps middle)
    (h' : middle.Keeps after) : tree.Keeps after where
  working_eq := h'.working_eq.trans h.working_eq
  directory := fun path hpath => h'.directory path (h.directory path hpath)

theorem Keeps.start_eq {tree after : Tree} (h : tree.Keeps after) (text : String) :
    after.start text = tree.start text := by
  rw [start, start, h.working_eq]

theorem lookup_root (tree : Tree) : tree.lookup .root = some .directory :=
  if_pos rfl

theorem ne_root_of_lookup {tree : Tree} {place : Path}
    (h : tree.lookup place ≠ some .directory) : place ≠ .root :=
  fun hroot => h (hroot ▸ tree.lookup_root)

/-- What takes the place of no directory leaves all directories. -/
theorem keeps_put {tree : Tree} {place : Path} (h : tree.lookup place ≠ some .directory)
    (node : Node) : tree.Keeps (tree.put place node) := by
  refine ⟨rfl, fun path hpath => ?_⟩
  have hother : path ≠ place := fun hsame => h (hsame ▸ hpath)
  rw [lookup_put tree place path node (ne_root_of_lookup h), if_neg hother, hpath]

theorem lookup_put_self {tree : Tree} {place : Path} (h : tree.lookup place ≠ some .directory)
    (node : Node) : (tree.put place node).lookup place = some node := by
  rw [lookup_put tree place place node (ne_root_of_lookup h), if_pos rfl]

/-- Names that lead to a place still lead there as long as no directory is lost. -/
theorem Keeps.descend_eq {tree after : Tree} (h : tree.Keeps after) {names : List String}
    {path place : Path} (hplace : tree.descend path names = .ok place) :
    after.descend path names = .ok place := by
  induction names generalizing path with
  | nil => exact hplace
  | cons name rest ih =>
      obtain ⟨next, hnext, hrest⟩ := bind_eq_ok_iff.mp hplace
      refine bind_eq_ok_iff.mpr ⟨next, hnext, ?_⟩
      split at hrest
      · exact absurd hrest (by simp)
      · exact absurd hrest (by simp)
      · rename_i hdirectory
        simp only [h.directory next hdirectory]
        exact ih hrest

/-- The text names a file, and its place is where the text leads. -/
structure Reaches (tree : Tree) (text : String) (place : Path) : Prop where
  check_eq : PathText.check text = .ok ()
  names_file : PathText.meansDirectory text = false
  leads : ∃ directory,
    tree.descend (tree.start text) (PathText.names text).dropLast = .ok directory ∧
      finish directory text = .ok place

theorem Reaches.of_keeps {tree after : Tree} {text : String} {place : Path}
    (h : tree.Reaches text place) (hkeeps : tree.Keeps after) : after.Reaches text place := by
  obtain ⟨directory, hdirectory, hplace⟩ := h.leads
  exact ⟨h.check_eq, h.names_file, directory,
    hkeeps.start_eq text ▸ hkeeps.descend_eq hdirectory, hplace⟩

theorem enter_eq_ok_iff {tree : Tree} {text : String} {directory : Path} :
    tree.enter text = .ok directory ↔ PathText.check text = .ok () ∧
      tree.descend (tree.start text) (PathText.names text).dropLast = .ok directory := by
  rw [enter, bind_eq_ok_iff]
  constructor
  · rintro ⟨⟨⟩, hcheck, hdirectory⟩
    exact ⟨hcheck, hdirectory⟩
  · rintro ⟨hcheck, hdirectory⟩
    exact ⟨(), hcheck, hdirectory⟩

theorem read_eq_ok_iff {tree : Tree} {text : String} {contents : Bytes} :
    tree.read text = .ok contents ↔
      ∃ place, tree.Reaches text place ∧ tree.lookup place = some (.file contents) := by
  simp only [read, bind_eq_ok_iff, enter_eq_ok_iff]
  constructor
  · rintro ⟨directory, ⟨hcheck, hdirectory⟩, place, hplace, hread⟩
    split at hread
    · exact absurd hread (by simp)
    · exact absurd hread (by simp)
    · rename_i found hfound
      split at hread
      · exact absurd hread (by simp)
      · rename_i hfile
        rw [Except.ok.inj hread] at hfound
        exact ⟨place, ⟨hcheck, eq_false_of_ne_true hfile, directory, hdirectory,
          hplace⟩, hfound⟩
  · rintro ⟨place, ⟨hcheck, hfile, directory, hdirectory, hplace⟩, hfound⟩
    refine ⟨directory, ⟨hcheck, hdirectory⟩, place, hplace, ?_⟩
    simp only [hfound, hfile, Bool.false_eq_true, if_false]

theorem write_eq_ok_iff {tree after : Tree} {text : String} {contents : Bytes} :
    tree.write text contents = .ok after ↔
      ∃ place, tree.Reaches text place ∧ tree.lookup place ≠ some .directory ∧
        after = tree.put place (.file contents) := by
  simp only [write, bind_eq_ok_iff, enter_eq_ok_iff]
  constructor
  · rintro ⟨directory, ⟨hcheck, hdirectory⟩, hwrite⟩
    split at hwrite
    · exact absurd hwrite (by simp)
    rename_i hfile
    obtain ⟨place, hplace, hput⟩ := bind_eq_ok_iff.mp hwrite
    split at hput
    · exact absurd hput (by simp)
    · rename_i hfree
      exact ⟨place, ⟨hcheck, eq_false_of_ne_true hfile, directory, hdirectory,
        hplace⟩, hfree, (Except.ok.inj hput).symm⟩
  · rintro ⟨place, ⟨hcheck, hfile, directory, hdirectory, hplace⟩, hfree, rfl⟩
    refine ⟨directory, ⟨hcheck, hdirectory⟩, ?_⟩
    simp only [hfile, Bool.false_eq_true, if_false, bind_eq_ok_iff]
    refine ⟨place, hplace, ?_⟩
    split
    · exact absurd ‹_› hfree
    · rfl

/-- What was written reads back. -/
theorem read_of_write {tree after : Tree} {text : String} {contents : Bytes}
    (h : tree.write text contents = .ok after) : after.read text = .ok contents := by
  obtain ⟨place, hreaches, hfree, rfl⟩ := write_eq_ok_iff.mp h
  exact read_eq_ok_iff.mpr
    ⟨place, hreaches.of_keeps (keeps_put hfree _), lookup_put_self hfree _⟩

/-! ## Directories that are made -/

theorem keeps_of_makeAlong {tree after : Tree} {path : Path} {created : Bool}
    {names : List String} (h : tree.makeAlong path created names = .ok after) :
    tree.Keeps after := by
  induction names generalizing tree path created with
  | nil =>
      rw [Except.ok.inj h]
      exact Keeps.refl _
  | cons name rest ih =>
      obtain ⟨next, -, hrest⟩ := bind_eq_ok_iff.mp h
      split at hrest
      · exact ih hrest
      · exact absurd hrest (by simp)
      · rename_i hmissing
        split at hrest
        · exact absurd hrest (by simp)
        · exact (keeps_put (by simp [hmissing]) _).trans (ih hrest)

/-- The names of a directory that was made lead to it. -/
theorem exists_descend_of_makeAlong {tree after : Tree} {path : Path} {created : Bool}
    {names : List String} (h : tree.makeAlong path created names = .ok after) :
    ∃ place, after.descend path names = .ok place := by
  induction names generalizing tree path created with
  | nil => exact ⟨path, rfl⟩
  | cons name rest ih =>
      obtain ⟨next, hnext, hrest⟩ := bind_eq_ok_iff.mp h
      -- whether it was there or is made now, the next name leads to a directory in the end
      have hdirectory : after.lookup next = some .directory ∧
          ∃ place, after.descend next rest = .ok place := by
        split at hrest
        · rename_i hthere
          exact ⟨(keeps_of_makeAlong hrest).directory next hthere, ih hrest⟩
        · exact absurd hrest (by simp)
        · rename_i hmissing
          split at hrest
          · exact absurd hrest (by simp)
          · have hmade : (tree.put next .directory).lookup next = some .directory :=
              lookup_put_self (by simp [hmissing]) _
            exact ⟨(keeps_of_makeAlong hrest).directory next hmade, ih hrest⟩
      obtain ⟨hthere, place, hplace⟩ := hdirectory
      refine ⟨place, bind_eq_ok_iff.mpr ⟨next, hnext, ?_⟩⟩
      simp only [hthere]
      exact hplace

theorem exists_descend_of_makeDirectories {tree after : Tree} {text : String}
    (h : tree.makeDirectories text = .ok after) :
    ∃ place, after.descend (after.start text) (PathText.names text) = .ok place := by
  unfold makeDirectories at h
  split at h
  · rename_i hempty
    rw [hempty, PathText.names_empty]
    exact ⟨_, rfl⟩
  · obtain ⟨-, -, hmade⟩ := bind_eq_ok_iff.mp h
    rw [(keeps_of_makeAlong hmade).start_eq]
    exact exists_descend_of_makeAlong hmade

end Tree

/-! ## Files in a directory -/

structure PathText.IsFileName (name : String) : Prop where
  ne_empty : name ≠ ""
  no_slash : '/' ∉ name.toList
  ne_dot : name ≠ "."
  ne_dots : name ≠ ".."
  size_le : name.utf8ByteSize ≤ longestName

section
variable {name : String} (h : PathText.IsFileName name)
include h

theorem PathText.IsFileName.fromRoot_eq : fromRoot name = false := by
  rw [fromRoot, beq_eq_false_iff_ne]
  exact fun hfirst => h.no_slash (List.mem_of_mem_head? hfirst)

theorem PathText.IsFileName.fromRoot_below (directory : String) :
    fromRoot (below directory name) = fromRoot directory := by
  rw [below, h.fromRoot_eq, Bool.or_false]
  by_cases hempty : directory = ""
  · rw [if_pos (by simpa using hempty), h.fromRoot_eq, hempty]
    rfl
  · obtain ⟨first, rest, hchars⟩ :=
      List.exists_cons_of_ne_nil fun hnil => hempty (String.toList_eq_nil_iff.mp hnil)
    rw [if_neg (by simpa using hempty)]
    split <;> simp [fromRoot, hchars]

theorem PathText.IsFileName.meansDirectory_below (directory : String) :
    meansDirectory (below directory name) = false := by
  have hchars : name.toList ≠ [] := fun hnil => h.ne_empty (String.toList_eq_nil_iff.mp hnil)
  have hlast : (below directory name).toList.getLast? = name.toList.getLast? := by
    unfold below
    split
    · rfl
    · split <;> rw [String.toList_append, List.getLast?_append,
        List.getLast?_eq_some_getLast hchars, Option.some_or]
  have hslash : endsInSlash (below directory name) = false := by
    rw [endsInSlash, hlast, beq_eq_false_iff_ne]
    exact fun hend => h.no_slash (List.mem_of_getLast? hend)
  rw [meansDirectory, hslash, names_below directory h.ne_empty h.no_slash]
  simp [h.ne_dot, h.ne_dots]

/-- A file name below a text that leads to a directory reaches the place of that name in it. -/
theorem Tree.reaches_below {tree : Tree} {directory : String} {place : Path}
    (hdirectory : tree.descend (tree.start directory) (PathText.names directory) = .ok place)
    (hcheck : PathText.check (PathText.below directory name) = .ok ()) :
    tree.Reaches (PathText.below directory name) (place.child name) := by
  have hnames := PathText.names_below directory h.ne_empty h.no_slash
  refine ⟨hcheck, h.meansDirectory_below directory, place, ?_, ?_⟩
  · rw [hnames, List.dropLast_concat, start, h.fromRoot_below]
    exact hdirectory
  · simp [finish, hnames, advance, Nat.not_lt.mpr h.size_le, Path.follow, h.ne_dot, h.ne_dots]

end

end Framecast.Files
