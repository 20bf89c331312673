import Framecast.Output.FrameFiles
import Framecast.Proofs.Files.Writing

/-!
# Files of a frame in their directory

The three files of a frame have names of their own, none of which can lead out of the
output directory.  Where the directory exists and no other directory stands in the
way, all three are written, and nothing else in the tree changes.
-/

namespace Framecast.Output

open Framecast.Assembly (Frame FrameState)
open Framecast.Files (Path Tree)
open Framecast.Files.PathText (IsFileName)

/-! ## File names -/

/-- A character takes four bytes at most. -/
theorem utf8ByteSize_le (text : String) : text.utf8ByteSize ≤ 4 * text.toList.length := by
  refine String.push_induction text (fun text => text.utf8ByteSize ≤ 4 * text.toList.length)
    (Nat.zero_le _) ?_
  intro front last ih
  have hlast := Char.utf8Size_le_four last
  rw [String.utf8ByteSize_push, String.toList_push, List.length_append, List.length_singleton]
  omega

theorem isDigit_of_mem_padded {width n : Nat} {c : Char}
    (h : c ∈ (Text.padded width n).toList) : c.isDigit = true := by
  rw [Text.padded, String.toList_ofList, List.mem_append] at h
  rcases h with h | h
  · rw [List.eq_of_mem_replicate h]
    rfl
  · exact Nat.isDigit_of_mem_toDigits (by decide) (by decide) h

theorem length_padded_le {width n bound : Nat} (h : (Nat.toDigits 10 n).length ≤ bound) :
    (Text.padded width n).toList.length ≤ max width bound := by
  rw [Text.padded, String.toList_ofList, List.length_append, List.length_replicate]
  omega

theorem toList_baseName (state : FrameState) (frameId : UInt32) :
    (baseName state frameId).toList = (stateLabel state).toList ++ "_frame_".toList ++
      (Text.padded 8 frameId.toNat).toList := by
  simp [baseName]

theorem slash_not_mem_baseName (state : FrameState) (frameId : UInt32) :
    '/' ∉ (baseName state frameId).toList := by
  rw [toList_baseName, List.mem_append]
  rintro (hfront | hdigit)
  · cases state <;> exact absurd hfront (by decide)
  · exact absurd (isDigit_of_mem_padded hdigit) (by decide)

theorem length_baseName_le (state : FrameState) (frameId : UInt32) :
    (baseName state frameId).toList.length ≤ 24 := by
  have hid : (Nat.toDigits 10 frameId.toNat).length ≤ 10 :=
    (Nat.length_toDigits_le_iff (by decide) (by decide)).mpr
      (Nat.lt_trans frameId.toNat_lt (by decide))
  have hdigits : (Text.padded 8 frameId.toNat).toList.length ≤ max 8 10 :=
    length_padded_le hid
  have hlabel : (stateLabel state).toList.length ≤ 7 := by cases state <;> decide
  have hword : "_frame_".toList.length = 7 := by decide
  rw [toList_baseName, List.length_append, List.length_append]
  omega

theorem isFileName_baseName_append (state : FrameState) (frameId : UInt32) {ending : String}
    (hshort : 3 ≤ ending.toList.length) (hlong : ending.toList.length ≤ 39)
    (hslash : '/' ∉ ending.toList) : IsFileName (baseName state frameId ++ ending) := by
  have hchars := String.toList_append (s := baseName state frameId) (t := ending)
  have hlength : 3 ≤ (baseName state frameId ++ ending).toList.length := by
    rw [hchars, List.length_append]
    omega
  -- names that lead elsewhere are shorter
  have hne : ∀ other : String, other.toList.length ≤ 2 →
      baseName state frameId ++ ending ≠ other := by
    intro other hother hsame
    rw [hsame] at hlength
    omega
  refine ⟨hne _ (by decide), ?_, hne _ (by decide), hne _ (by decide), ?_⟩
  · rw [hchars, List.mem_append]
    exact not_or_intro (slash_not_mem_baseName state frameId) hslash
  · have hsize := utf8ByteSize_le (baseName state frameId ++ ending)
    have hbase := length_baseName_le state frameId
    rw [hchars, List.length_append] at hsize
    unfold Files.PathText.longestName
    omega

theorem isFileName_of_mem {state : FrameState} {frameId : UInt32} {name : String}
    (h : name ∈ fileNames state frameId) : IsFileName name := by
  simp only [fileNames, List.mem_cons, List.not_mem_nil, or_false] at h
  rcases h with rfl | rfl | rfl <;>
    exact isFileName_baseName_append state frameId (by decide) (by decide) (by decide)

theorem nodup_fileNames (state : FrameState) (frameId : UInt32) :
    (fileNames state frameId).Nodup := by
  simp [fileNames]

/-! ## Writing them -/

/-- The directory is at the place, and files with the given names can be put there. -/
structure Directory.Admits (directory : Directory) (tree : Tree) (place : Path)
    (names : List String) : Prop where
  descend_eq : tree.descend (tree.start directory.path)
    (Files.PathText.names directory.path) = .ok place
  check_eq : ∀ name ∈ names, Files.PathText.check (directory.pathOf name) = .ok ()
  free : ∀ name ∈ names, tree.lookup (place.child name) ≠ some .directory

/-- A directory that was just made admits all names that are not taken by directories. -/
theorem Directory.admits_of_create {tree after : Tree} {path : String} {directory : Directory}
    (h : create tree path = .ok (after, directory)) :
    ∃ place, after.descend (after.start path) (Files.PathText.names path) = .ok place ∧
      ∀ names, (∀ name ∈ names, Files.PathText.check (directory.pathOf name) = .ok ()) →
        (∀ name ∈ names, after.lookup (place.child name) ≠ some .directory) →
          directory.Admits after place names := by
  unfold create at h
  split at h
  · exact absurd h (by simp)
  · rename_i made hmade
    obtain ⟨rfl, rfl⟩ := Prod.mk.inj (Except.ok.inj h)
    obtain ⟨place, hplace⟩ := Tree.exists_descend_of_makeDirectories hmade
    exact ⟨place, hplace, fun names hcheck hfree => ⟨hplace, hcheck, hfree⟩⟩

/-- Files with the given names and contents lie in the place; nothing else has changed. -/
structure Stores (tree after : Tree) (place : Path) (files : List (String × Bytes)) : Prop where
  working_eq : after.working = tree.working
  lookup_eq : ∀ file ∈ files, after.lookup (place.child file.1) = some (.file file.2)
  lookup_other : ∀ path, (∀ file ∈ files, path ≠ place.child file.1) →
    after.lookup path = tree.lookup path

section
variable {directory : Directory} {tree : Tree} {place : Path} {name : String}
  {names : List String}

theorem Directory.Admits.reaches (h : directory.Admits tree place names) (hmem : name ∈ names)
    (hname : IsFileName name) : tree.Reaches (directory.pathOf name) (place.child name) :=
  Files.Tree.reaches_below hname h.descend_eq (h.check_eq name hmem)

theorem Directory.Admits.write_eq (h : directory.Admits tree place names) (hmem : name ∈ names)
    (hname : IsFileName name) (contents : Bytes) :
    tree.write (directory.pathOf name) contents =
      .ok (tree.put (place.child name) (.file contents)) :=
  Tree.write_eq_ok_iff.mpr ⟨_, h.reaches hmem hname, h.free name hmem, rfl⟩

/-- One file leaves room for the others. -/
theorem Directory.Admits.put (h : directory.Admits tree place (name :: names))
    (contents : Bytes) :
    directory.Admits (tree.put (place.child name) (.file contents)) place names where
  descend_eq := by
    have hkeeps := Tree.keeps_put (h.free name List.mem_cons_self) (.file contents)
    rw [hkeeps.start_eq]
    exact hkeeps.descend_eq h.descend_eq
  check_eq := fun other hother => h.check_eq other (List.mem_cons_of_mem _ hother)
  free := by
    intro other hother
    rw [Tree.lookup_put _ _ _ _ (Path.child_ne_root _ _)]
    split
    · simp
    · exact h.free other (List.mem_cons_of_mem _ hother)

/-- Files with names of their own are all written. -/
theorem Directory.Admits.writeFiles_eq {files : List (String × Bytes)}
    (h : directory.Admits tree place (files.map Prod.fst))
    (hnames : ∀ file ∈ files, IsFileName file.1) (hnodup : (files.map Prod.fst).Nodup) :
    ∃ after, writeFiles tree (files.map (Prod.map directory.pathOf id)) = (after, .ok ()) ∧
      Stores tree after place files := by
  induction files generalizing tree with
  | nil => exact ⟨tree, rfl, rfl, by simp, fun _ _ => rfl⟩
  | cons file rest ih =>
      obtain ⟨hfirst, hrest⟩ := List.nodup_cons.mp hnodup
      have hwrite := h.write_eq List.mem_cons_self (hnames file List.mem_cons_self) file.2
      obtain ⟨after, hwritten, hstores⟩ :=
        ih (h.put file.2) (fun other hother => hnames other (List.mem_cons_of_mem _ hother)) hrest
      refine ⟨after, ?_, hstores.working_eq, ?_, ?_⟩
      · rw [List.map_cons, writeFiles]
        simp only [Prod.map_fst, Prod.map_snd, id_eq, hwrite, hwritten]
      · intro other hother
        rcases List.mem_cons.mp hother with rfl | hother
        · -- the later files have other names
          rw [hstores.lookup_other, Tree.lookup_put_self (h.free _ List.mem_cons_self)]
          intro later hlater hsame
          rw [(Path.child_inj place).mp hsame] at hfirst
          exact hfirst (List.mem_map_of_mem hlater)
        · exact hstores.lookup_eq other hother
      · intro path hpath
        have hnone : path ≠ place.child file.1 := hpath file List.mem_cons_self
        rw [hstores.lookup_other path fun other hother =>
            hpath other (List.mem_cons_of_mem _ hother),
          Tree.lookup_put _ _ _ _ (Path.child_ne_root _ _), if_neg hnone]

theorem Directory.Admits.keeps {files : List (String × Bytes)} {after : Tree}
    (h : directory.Admits tree place (files.map Prod.fst))
    (hstores : Stores tree after place files) : tree.Keeps after where
  working_eq := hstores.working_eq
  directory := by
    intro path hpath
    rw [hstores.lookup_other, hpath]
    rintro file hfile rfl
    exact h.free file.1 (List.mem_map_of_mem hfile) hpath

/-- What was stored is read from the paths it was written to. -/
theorem Directory.Admits.read_eq {files : List (String × Bytes)} {after : Tree}
    (h : directory.Admits tree place (files.map Prod.fst))
    (hnames : ∀ file ∈ files, IsFileName file.1) (hstores : Stores tree after place files)
    {file : String × Bytes} (hfile : file ∈ files) :
    after.read (directory.pathOf file.1) = .ok file.2 :=
  Tree.read_eq_ok_iff.mpr ⟨place.child file.1,
    (h.reaches (List.mem_map_of_mem hfile) (hnames file hfile)).of_keeps (h.keeps hstores),
    hstores.lookup_eq file hfile⟩

end

/-- The frame is written: its three files hold the given contents, and nothing else changes. -/
structure Directory.Writes (directory : Directory) (tree : Tree) (place : Path) (frame : Frame)
    (contents : List Bytes) : Prop where
  result_eq : (directory.write tree frame).result = .ok ()
  stores : Stores tree (directory.write tree frame).tree place
    ((fileNames frame.state frame.id).zip contents)
  read_eq : ∀ file ∈ (fileNames frame.state frame.id).zip contents,
    (directory.write tree frame).tree.read (directory.pathOf file.1) = .ok file.2

/-- A frame that has room for a header is written. -/
theorem Directory.Admits.writes {directory : Directory} {tree : Tree} {place : Path}
    {frame : Frame} (h : directory.Admits tree place (fileNames frame.state frame.id))
    (hsize : Image.headerSize ≤ frame.data.length) :
    directory.Writes tree place frame (fileContents frame.data) := by
  have hfirst : ((fileNames frame.state frame.id).zip (fileContents frame.data)).map Prod.fst =
      fileNames frame.state frame.id := List.map_fst_zip (by simp [fileNames, fileContents])
  have hnames : ∀ file ∈ (fileNames frame.state frame.id).zip (fileContents frame.data),
      IsFileName file.1 := fun file hfile => isFileName_of_mem (List.of_mem_zip hfile).1
  rw [← hfirst] at h
  obtain ⟨after, hwritten, hstores⟩ :=
    h.writeFiles_eq hnames (hfirst ▸ nodup_fileNames frame.state frame.id)
  have hwrite : directory.write tree frame = ⟨after, .ok (), headerLog frame⟩ := by
    rw [← List.zip_map_left] at hwritten
    simp only [Directory.write, if_neg (Nat.not_lt.mpr hsize), hwritten]
  constructor <;> rw [hwrite]
  · exact hstores
  · exact fun file hfile => h.read_eq hnames hstores hfile

end Framecast.Output
