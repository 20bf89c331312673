import Framecast.Proofs.Output.Placing

/-!
# What a run of the writer leaves in its directory

The name of a file tells the state and the id of its frame, however many digits the id
has, so that frames of different kinds have no file in common.  In a directory that was
empty a run therefore leaves the three files of each kind that occurs, as the last
frame of that kind left them.  A frame too short for a header leaves nothing.
-/

namespace Framecast.Output

open Framecast.Assembly (Frame FrameState)
open Framecast.Files (Node Path Tree)

/-! ## Names tell frames apart -/

/-- Zeros in front do not change the value of a number. -/
theorem padded_inj {width m n : Nat} (h : Text.padded width m = Text.padded width n) : m = n := by
  have hvalue : ∀ k, Nat.ofDigitChars 10 (Text.padded width k).toList 0 = k := by
    intro k
    rw [Text.padded, String.toList_ofList, Nat.ofDigitChars_append,
      Nat.ofDigitChars_replicate_zero, Nat.mul_zero, Nat.ofDigitChars_ten_toDigits]
  rw [← hvalue m, h, hvalue n]

/-- What stands in front of the id tells the state; the id ends where the digits end. -/
theorem eq_of_baseName_append_eq {state state' : FrameState} {frameId frameId' : UInt32}
    {ending ending' : String} (hend : ending.toList.takeWhile Char.isDigit = [])
    (hend' : ending'.toList.takeWhile Char.isDigit = [])
    (h : baseName state frameId ++ ending = baseName state' frameId' ++ ending') :
    state = state' ∧ frameId = frameId' := by
  have hchars := congrArg String.toList h
  simp only [String.toList_append, toList_baseName, List.append_assoc] at hchars
  have hstate : state = state' := by
    cases state <;> cases state' <;> simp [stateLabel] at hchars ⊢
  subst hstate
  have hdigits := congrArg (List.takeWhile Char.isDigit)
    (List.append_cancel_left (List.append_cancel_left hchars))
  rw [List.takeWhile_append_of_pos fun _ => isDigit_of_mem_padded,
    List.takeWhile_append_of_pos fun _ => isDigit_of_mem_padded, hend, hend',
    List.append_nil, List.append_nil] at hdigits
  exact ⟨rfl, UInt32.toNat_inj.mp (padded_inj (String.toList_inj.mp hdigits))⟩

theorem exists_ending_of_mem {state : FrameState} {frameId : UInt32} {name : String}
    (h : name ∈ fileNames state frameId) :
    ∃ ending : String, ending.toList.takeWhile Char.isDigit = [] ∧
      name = baseName state frameId ++ ending := by
  simp only [fileNames, List.mem_cons, List.not_mem_nil, or_false] at h
  rcases h with rfl | rfl | rfl
  · exact ⟨".bin", by decide, rfl⟩
  · exact ⟨"_header.bin", by decide, rfl⟩
  · exact ⟨"_raw.bin", by decide, rfl⟩

theorem eq_of_mem_fileNames {state state' : FrameState} {frameId frameId' : UInt32}
    {name : String} (h : name ∈ fileNames state frameId) (h' : name ∈ fileNames state' frameId') :
    state = state' ∧ frameId = frameId' := by
  obtain ⟨ending, hend, rfl⟩ := exists_ending_of_mem h
  obtain ⟨ending', hend', hsame⟩ := exists_ending_of_mem h'
  exact eq_of_baseName_append_eq hend hend' hsame

/-! ## The last frame of each kind -/

def hasHeader (frame : Frame) : Bool :=
  Image.headerSize ≤ frame.data.length

/-- The last frame with the given state and id that was long enough to be written. -/
def lastOf (state : FrameState) (frameId : UInt32) (frames : List Frame) : Option Frame :=
  (frames.filter fun frame =>
    hasHeader frame && frame.state = state && frame.id = frameId).getLast?

theorem lastOf_concat (state : FrameState) (frameId : UInt32) (seen : List Frame) (frame : Frame) :
    lastOf state frameId (seen ++ [frame]) =
      if hasHeader frame ∧ frame.state = state ∧ frame.id = frameId then some frame
      else lastOf state frameId seen := by
  unfold lastOf
  rw [List.filter_append, List.getLast?_append]
  split <;> simp_all

theorem mem_of_lastOf {state : FrameState} {frameId : UInt32} {frames : List Frame} {frame : Frame}
    (h : lastOf state frameId frames = some frame) :
    frame ∈ frames ∧ frame.state = state ∧ frame.id = frameId := by
  have hmem := List.mem_of_getLast? h
  simp only [List.mem_filter, Bool.and_eq_true, decide_eq_true_eq] at hmem
  exact ⟨hmem.1, hmem.2.1.2, hmem.2.2⟩

/-- What lies in the place are the files of the last frame of each kind, and nothing else. -/
def Holds (tree : Tree) (place : Path) (frames : List Frame) : Prop :=
  ∀ name node, tree.lookup (place.child name) = some node ↔
    ∃ state frameId frame contents, lastOf state frameId frames = some frame ∧
      (name, contents) ∈ (fileNames state frameId).zip (fileContents frame.data) ∧
      node = .file contents

theorem Holds.of_empty {tree : Tree} {place : Path}
    (h : ∀ name, tree.lookup (place.child name) = none) : Holds tree place [] := by
  intro name node
  simp [h name, lastOf]

/-- The files of a further frame take the places of those of its kind, and no others. -/
theorem Holds.concat {tree after : Tree} {place : Path} {seen : List Frame} {frame : Frame}
    (h : Holds tree place seen) (hsize : hasHeader frame = true)
    (hstores : Stores tree after place
      ((fileNames frame.state frame.id).zip (fileContents frame.data))) :
    Holds after place (seen ++ [frame]) := by
  have hlast : lastOf frame.state frame.id (seen ++ [frame]) = some frame := by
    rw [lastOf_concat, if_pos ⟨hsize, rfl, rfl⟩]
  intro name node
  by_cases hname : name ∈ fileNames frame.state frame.id
  · -- the name is one of this frame's, and of no other kind
    constructor
    · intro hfound
      obtain ⟨contents, hfile⟩ : ∃ contents, (name, contents) ∈
          (fileNames frame.state frame.id).zip (fileContents frame.data) := by
        simpa [fileNames, fileContents, or_and_right, exists_or] using hname
      have hlookup := hstores.lookup_eq _ hfile
      exact ⟨frame.state, frame.id, frame, contents, hlast, hfile,
        Option.some.inj (hfound.symm.trans hlookup)⟩
    · rintro ⟨state, frameId, last, contents, hother, hfile, rfl⟩
      obtain ⟨rfl, rfl⟩ := eq_of_mem_fileNames (List.of_mem_zip hfile).1 hname
      obtain rfl := Option.some.inj (hother.symm.trans hlast)
      exact hstores.lookup_eq _ hfile
  · have hkeep : after.lookup (place.child name) = tree.lookup (place.child name) := by
      refine hstores.lookup_other _ fun file hfile hsame => hname ?_
      rw [(Path.child_inj place).mp hsame]
      exact (List.of_mem_zip hfile).1
    -- a kind that has the name is not the frame's
    have hkind : ∀ state frameId, name ∈ fileNames state frameId →
        lastOf state frameId (seen ++ [frame]) = lastOf state frameId seen := by
      intro state frameId hmem
      rw [lastOf_concat, if_neg]
      rintro ⟨-, rfl, rfl⟩
      exact hname hmem
    rw [hkeep, h name node]
    constructor
    · rintro ⟨state, frameId, last, contents, hother, hfile, hnode⟩
      exact ⟨state, frameId, last, contents,
        (hkind state frameId (List.of_mem_zip hfile).1).trans hother, hfile, hnode⟩
    · rintro ⟨state, frameId, last, contents, hother, hfile, hnode⟩
      exact ⟨state, frameId, last, contents,
        (hkind state frameId (List.of_mem_zip hfile).1).symm.trans hother, hfile, hnode⟩

/-! ## One frame after the other -/

namespace Directory

variable {directory : Directory} {tree : Tree} {place : Path} {names : List String}
  {frame : Frame} {frames seen : List Frame}

theorem Admits.mono {fewer : List String} (h : directory.Admits tree place names)
    (hfewer : fewer ⊆ names) : directory.Admits tree place fewer where
  descend_eq := h.descend_eq
  check_eq := fun name hname => h.check_eq name (hfewer hname)
  free := fun name hname => h.free name (hfewer hname)

/-- Files take no place from one another, whatever their names. -/
theorem Admits.of_stores {after : Tree} {files : List (String × Bytes)}
    (h : directory.Admits tree place names) (hfiles : files.map Prod.fst ⊆ names)
    (hstores : Stores tree after place files) : directory.Admits after place names where
  descend_eq := by
    have hkeeps := (h.mono hfiles).keeps hstores
    rw [hkeeps.start_eq]
    exact hkeeps.descend_eq h.descend_eq
  check_eq := h.check_eq
  free := by
    intro name hname
    by_cases hfile : ∃ file ∈ files, place.child name = place.child file.1
    · obtain ⟨file, hmem, hsame⟩ := hfile
      rw [hsame, hstores.lookup_eq file hmem]
      simp
    · rw [hstores.lookup_other _ fun file hmem hsame => hfile ⟨file, hmem, hsame⟩]
      exact h.free name hname

/-- A frame without a whole header is refused, and no file is touched. -/
theorem write_of_short (directory : Directory) (tree : Tree)
    (h : frame.data.length < Image.headerSize) :
    directory.write tree frame = ⟨tree, .error (.tooShort frame.id frame.data.length), []⟩ :=
  if_pos h

/-- How far a run has come: the frames that it has seen are in the place, the rest of the
tree is as it was, and there is room for more. -/
structure Progress (directory : Directory) (start : Tree) (place : Path) (names : List String)
    (seen : List Frame) (tree : Tree) : Prop where
  admits : directory.Admits tree place names
  holds : Holds tree place seen
  outside : ∀ path, (∀ name, path ≠ place.child name) → tree.lookup path = start.lookup path

theorem Progress.write {start : Tree} (h : directory.Progress start place names seen tree)
    (hnames : fileNames frame.state frame.id ⊆ names) :
    directory.Progress start place names (seen ++ [frame]) (directory.write tree frame).tree ∧
      ((directory.write tree frame).result = .ok () ↔ hasHeader frame = true) := by
  by_cases hsize : Image.headerSize ≤ frame.data.length
  · have hheader : hasHeader frame = true := decide_eq_true hsize
    have hwrites := (h.admits.mono hnames).writes hsize
    have hfirst : ((fileNames frame.state frame.id).zip (fileContents frame.data)).map
        Prod.fst ⊆ names := by
      rw [List.map_fst_zip (by simp [fileNames, fileContents])]
      exact hnames
    refine ⟨⟨h.admits.of_stores hfirst hwrites.stores, h.holds.concat hheader hwrites.stores,
      fun path hpath => ?_⟩, by simp [hwrites.result_eq, hheader]⟩
    rw [hwrites.stores.lookup_other path fun file _ => hpath file.1]
    exact h.outside path hpath
  · have hheader : hasHeader frame = false := decide_eq_false hsize
    have hseen : Holds tree place (seen ++ [frame]) := by
      intro name node
      simp only [lastOf_concat, hheader, Bool.false_eq_true, false_and, if_false]
      exact h.holds name node
    rw [write_of_short directory tree (Nat.lt_of_not_le hsize)]
    exact ⟨⟨h.admits, hseen, h.outside⟩, by simp [hheader]⟩

theorem Progress.writeEach {start : Tree} (h : directory.Progress start place names seen tree)
    (hnames : ∀ frame ∈ frames, fileNames frame.state frame.id ⊆ names) :
    directory.Progress start place names (seen ++ frames) (directory.writeEach tree frames).1 ∧
      (directory.writeEach tree frames).2.1 = frames.countP hasHeader := by
  induction frames generalizing seen tree with
  | nil =>
      rw [List.append_nil]
      exact ⟨h, rfl⟩
  | cons frame rest ih =>
      obtain ⟨hstep, hresult⟩ := h.write (hnames frame List.mem_cons_self)
      obtain ⟨hrun, hcount⟩ := ih hstep fun other hother =>
        hnames other (List.mem_cons_of_mem _ hother)
      rw [List.append_assoc, List.singleton_append] at hrun
      rw [Directory.writeEach, List.countP_cons]
      cases hwritten : (directory.write tree frame).result with
      | ok =>
          simp only [hresult.mp hwritten, if_true]
          exact ⟨hrun, congrArg (· + 1) hcount⟩
      | error cause =>
          have hshort : ¬hasHeader frame = true := fun hheader => by
            rw [hresult.mpr hheader] at hwritten
            exact absurd hwritten (by simp)
          simp only [hshort]
          exact ⟨hrun, hcount⟩

/-- Frames that are refused could as well be left out. -/
theorem writeEach_filter (directory : Directory) (tree : Tree) (frames : List Frame) :
    (directory.writeEach tree (frames.filter hasHeader)).1 = (directory.writeEach tree frames).1 ∧
      (directory.writeEach tree (frames.filter hasHeader)).2.1 =
        (directory.writeEach tree frames).2.1 := by
  induction frames generalizing tree with
  | nil => exact ⟨rfl, rfl⟩
  | cons frame rest ih =>
      cases hheader : hasHeader frame with
      | true =>
          rw [List.filter_cons_of_pos hheader, writeEach, writeEach]
          cases (directory.write tree frame).result <;> simp [ih]
      | false =>
          have hshort : frame.data.length < Image.headerSize :=
            Nat.lt_of_not_le (of_decide_eq_false hheader)
          rw [List.filter_cons_of_neg (by simp [hheader]), writeEach,
            write_of_short directory tree hshort]
          exact ih tree

/-! ## A whole run -/

/-- What a run over the frames comes to in a directory that was empty. -/
structure Leaves (directory : Directory) (tree : Tree) (place : Path) (frames : List Frame) :
    Prop where
  count_eq : (directory.writeAll tree frames).2.1 = frames.countP hasHeader
  holds : Holds (directory.writeAll tree frames).1 place frames
  /-- The files are read under the names they were written to. -/
  read_eq : ∀ state frameId frame, lastOf state frameId frames = some frame →
    ∀ file ∈ (fileNames state frameId).zip (fileContents frame.data),
      (directory.writeAll tree frames).1.read (directory.pathOf file.1) = .ok file.2
  lookup_outside : ∀ path, (∀ name, path ≠ place.child name) →
    (directory.writeAll tree frames).1.lookup path = tree.lookup path
  /-- Each kind has three names, and shares none of them with another. -/
  three_names : ∀ state frameId,
    (fileNames state frameId).Nodup ∧ (fileNames state frameId).length = 3
  disjoint : ∀ state frameId state' frameId', (state, frameId) ≠ (state', frameId') →
    ∀ name ∈ fileNames state frameId, name ∉ fileNames state' frameId'
  /-- Frames that are too short touch no file, and the others are written all the same. -/
  refused : ∀ frame, hasHeader frame = false → ∀ current,
    (directory.write current frame).tree = current ∧
      (directory.write current frame).result = .error (.tooShort frame.id frame.data.length)
  without_refused :
    (directory.writeAll tree (frames.filter hasHeader)).1 = (directory.writeAll tree frames).1 ∧
      (directory.writeAll tree (frames.filter hasHeader)).2.1 =
        (directory.writeAll tree frames).2.1

/-- A run over any frames leaves the last of each kind in a directory that was empty. -/
theorem writeAll_leaves_last_of_each_kind
    (hadmits : directory.Admits tree place
      (frames.flatMap fun frame => fileNames frame.state frame.id))
    (hempty : ∀ name, tree.lookup (place.child name) = none) :
    directory.Leaves tree place frames := by
  have hnames : ∀ frame ∈ frames, fileNames frame.state frame.id ⊆
      frames.flatMap fun frame => fileNames frame.state frame.id :=
    fun frame hframe _ hname => List.mem_flatMap.mpr ⟨frame, hframe, hname⟩
  have hstart : directory.Progress tree place _ [] tree :=
    ⟨hadmits, .of_empty hempty, fun _ _ => rfl⟩
  obtain ⟨hrun, hcount⟩ := hstart.writeEach hnames
  rw [List.nil_append] at hrun
  constructor
  case count_eq => exact hcount
  case holds => exact hrun.holds
  case read_eq =>
    intro state frameId frame hlast file hfile
    obtain ⟨hmem, rfl, rfl⟩ := mem_of_lastOf hlast
    have hname := (List.of_mem_zip hfile).1
    refine Tree.read_eq_ok_iff.mpr ⟨place.child file.1,
      hrun.admits.reaches (hnames frame hmem hname) (isFileName_of_mem hname), ?_⟩
    exact (hrun.holds file.1 _).mpr ⟨_, _, frame, file.2, hlast, hfile, rfl⟩
  case lookup_outside => exact hrun.outside
  case three_names => exact fun state frameId => ⟨nodup_fileNames state frameId, rfl⟩
  case disjoint =>
    intro state frameId state' frameId' hne name hname hname'
    obtain ⟨rfl, rfl⟩ := eq_of_mem_fileNames hname hname'
    exact hne rfl
  case refused =>
    intro frame hheader current
    have hshort : frame.data.length < Image.headerSize :=
      Nat.lt_of_not_le (of_decide_eq_false hheader)
    rw [write_of_short directory current hshort]
    exact ⟨rfl, rfl⟩
  case without_refused => exact writeEach_filter directory tree frames

/-- The first frame is written again under the same names, and a short one in between is
refused; the id of the last has more digits than the names are padded to. -/
theorem writeAll_leaves_last_of_each_kind_rewritten :
    let frame (state : FrameState) (id : UInt32) (data : Bytes) : Frame :=
      ⟨id, state, true, false, false, data.length, data.length, data⟩
    let frames := [frame .complete 7 (List.replicate 16 0), frame .complete 7 [3],
      frame .complete 7 (List.replicate 17 1), frame .incomplete 123456789 (List.replicate 16 2)]
    let tree : Tree := ⟨[(⟨"/out"⟩, .directory)], .root⟩
    let directory : Directory := ⟨"out"⟩
    create .empty "out" = .ok (tree, directory) ∧ directory.Leaves tree ⟨"/out"⟩ frames ∧
      (directory.writeAll tree frames).2.1 = 3 ∧
      (directory.writeAll tree frames).1.read
        (directory.pathOf "full_frame_00000007_raw.bin") = .ok [1] ∧
      (directory.writeAll tree frames).1.read
        (directory.pathOf "partial_frame_123456789_raw.bin") = .ok [] := by
  intro frame frames tree directory
  have hcreate : create .empty "out" = .ok (tree, directory) := rfl
  obtain ⟨place, hplace, hadmits⟩ := admits_of_create hcreate
  obtain rfl : (⟨"/out"⟩ : Path) = place := Except.ok.inj hplace
  have hempty : ∀ name, tree.lookup (Path.child ⟨"/out"⟩ name) = none := by
    intro name
    have hlonger : (⟨"/out"⟩ : Path) ≠ Path.child ⟨"/out"⟩ name := by
      intro hsame
      have hslash : "/".length = 1 := by decide
      have hlength := congrArg (fun path : Path => path.text.length) hsame
      simp only [Path.child, String.length_append] at hlength
      omega
    simp [tree, Tree.lookup, Path.child_ne_root, hlonger]
  have hpaths : ∀ name ∈ frames.flatMap fun frame => fileNames frame.state frame.id,
      '\x00' ∉ (directory.pathOf name).toList ∧ directory.pathOf name ≠ "" ∧
        (directory.pathOf name).utf8ByteSize ≤ Files.PathText.longest := by decide +kernel
  have hopen : directory.Admits tree ⟨"/out"⟩
      (frames.flatMap fun frame => fileNames frame.state frame.id) :=
    hadmits _ (fun name hname => Files.PathText.check_eq_ok_iff.mpr (hpaths name hname))
      fun name _ => by simp [hempty name]
  have hleaves := writeAll_leaves_last_of_each_kind hopen hempty
  have hfull : lastOf .complete 7 frames = some (frame .complete 7 (List.replicate 17 1)) := by
    decide +kernel
  have hpartial : lastOf .incomplete 123456789 frames =
      some (frame .incomplete 123456789 (List.replicate 16 2)) := by decide +kernel
  have hcount : frames.countP hasHeader = 3 := by decide +kernel
  exact ⟨hcreate, hleaves, hleaves.count_eq.trans hcount,
    hleaves.read_eq _ _ _ hfull ("full_frame_00000007_raw.bin", [1]) (by decide +kernel),
    hleaves.read_eq _ _ _ hpartial ("partial_frame_123456789_raw.bin", []) (by decide +kernel)⟩

end Directory

end Framecast.Output
