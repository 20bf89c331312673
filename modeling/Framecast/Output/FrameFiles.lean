import Framecast.Assembly.Frame
import Framecast.Files.Tree
import Framecast.Image.Header
import Framecast.Log
import Framecast.Text.Digits
import Framecast.Text.Failure

/-!
# Files of retired frames

Every retired frame is written to three files: the whole frame, its image header,
and its pixels.  Their names tell the state and the id of the frame.  A frame too
short for a header is refused and leaves no file.
-/

namespace Framecast.Output

open Framecast.Assembly (Frame FrameState)
open Framecast.Files (FileFault Tree)

inductive OutputError where
  | cannotCreate (directory : String) (fault : FileFault)
  | tooShort (frameId : UInt32) (size : Nat)
  | cannotWrite (path : String) (fault : FileFault)
deriving Repr, DecidableEq

def OutputError.chain : OutputError → Text.FailureChain
  | .cannotCreate directory fault =>
      ["failed to create output dir: " ++ directory, fault.message]
  | .tooShort frameId size =>
      [s!"frame {frameId.toNat} has {size} bytes, shorter than the " ++
        s!"{Image.headerSize}-byte frame header"]
  | .cannotWrite path fault => ["failed to write " ++ path, fault.message]

def stateLabel : FrameState → String
  | .complete => "full"
  | .incomplete => "partial"

/-- The part that the file names of a frame have in common. -/
def baseName (state : FrameState) (frameId : UInt32) : String :=
  stateLabel state ++ "_frame_" ++ Text.padded 8 frameId.toNat

/-- The names of the whole frame, of its header, and of its pixels. -/
def fileNames (state : FrameState) (frameId : UInt32) : List String :=
  let base := baseName state frameId
  [base ++ ".bin", base ++ "_header.bin", base ++ "_raw.bin"]

/-- The contents of the three files, in the order of their names. -/
def fileContents (data : Bytes) : List Bytes :=
  [data, data.take Image.headerSize, data.drop Image.headerSize]

structure Directory where
  path : String
deriving Repr, DecidableEq

namespace Directory

def create (tree : Tree) (path : String) : Except OutputError (Tree × Directory) :=
  match tree.makeDirectories path with
  | .error fault => .error (.cannotCreate path fault)
  | .ok tree => .ok (tree, ⟨path⟩)

def pathOf (directory : Directory) (name : String) : String :=
  Files.PathText.below directory.path name

/-- Write files one after the other, up to the first that cannot be written. -/
def writeFiles (tree : Tree) : List (String × Bytes) → Tree × Except OutputError Unit
  | [] => (tree, .ok ())
  | (path, contents) :: rest =>
      match tree.write path contents with
      | .error fault => (tree, .error (.cannotWrite path fault))
      | .ok tree => writeFiles tree rest

def headerLog (frame : Frame) : List LogRecord :=
  let complaint := match Image.Header.decode frame.data with
    | .error cause => some cause.message
    | .ok header =>
        match header.check with
        | .error cause => some cause.message
        | .ok () => none
  match complaint with
  | none => []
  | some text =>
      [⟨.warn, "unexpected frame header: " ++ text, [("frame_id", .number frame.id.toNat)]⟩]

structure Written where
  tree : Tree
  result : Except OutputError Unit
  log : List LogRecord

def write (directory : Directory) (tree : Tree) (frame : Frame) : Written :=
  if frame.data.length < Image.headerSize then
    ⟨tree, .error (.tooShort frame.id frame.data.length), []⟩
  else
    let paths := (fileNames frame.state frame.id).map directory.pathOf
    let (tree, result) := writeFiles tree (paths.zip (fileContents frame.data))
    ⟨tree, result, headerLog frame⟩

def resultLog (directory : Directory) (frame : Frame) :
    Except OutputError Unit → List LogRecord
  | .ok () =>
      [⟨.debug, "frame written",
        [("frame_id", .number frame.id.toNat), ("size", .number frame.data.length),
          ("path", .text (directory.pathOf (baseName frame.state frame.id ++ ".bin")))]⟩]
  | .error cause =>
      [⟨.warn, "frame not written: " ++ cause.chain.inline,
        [("frame_id", .number frame.id.toNat)]⟩]

/-- Write frames in order; one that is refused does not stop the others. -/
def writeEach (directory : Directory) (tree : Tree) : List Frame → Tree × Nat × List LogRecord
  | [] => (tree, 0, [])
  | frame :: rest =>
      let written := directory.write tree frame
      let (tree, count, log) := directory.writeEach written.tree rest
      let here := written.log ++ directory.resultLog frame written.result
      match written.result with
      | .ok () => (tree, count + 1, here ++ log)
      | .error _ => (tree, count, here ++ log)

/-- Write all frames of a run: the files, how many frames were written, and the log. -/
def writeAll (directory : Directory) (tree : Tree) (frames : List Frame) :
    Tree × Nat × List LogRecord :=
  let (tree, count, log) := directory.writeEach tree frames
  (tree, count,
    log ++ [⟨.info, "frame writer finished",
      [("written", .number count), ("dir", .text directory.path)]⟩])

end Directory

end Framecast.Output
