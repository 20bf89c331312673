import Framecast.Output.FrameFiles
import Framecast.Output.Handoff

/-!
# The writer at work

The writer takes frames out of the channel and writes them one at a time, while the
sending side puts in others.  It waits at an empty channel as long as there is a sending
side, and finishes once that has gone.  Where it is stopped instead, the frames under way
are lost, and later ones are dropped.
-/

namespace Framecast.Output

open Framecast.Assembly (Frame)
open Framecast.Files (Tree)

inductive Writer.Phase where
  /-- It asks the channel for a frame. -/
  | asking
  | writing (frame : Frame)
  /-- It has got all frames, and nobody is left to send more. -/
  | finished
  /-- It was stopped before it could finish. -/
  | stopped
deriving Repr, DecidableEq

/-- Whether the writer holds its end of the channel. -/
def Writer.Phase.isRunning : Phase → Bool
  | .asking | .writing _ => true
  | .finished | .stopped => false

structure Writer where
  directory : Directory
  handoff : Handoff
  /-- Whether the sending side is still there. -/
  sending : Bool
  phase : Writer.Phase
  tree : Tree
  /-- How many frames were written. -/
  written : Nat

namespace Writer

def fresh (directory : Directory) (tree : Tree) (capacity : Nat) : Writer :=
  ⟨directory, .toWriter capacity, true, .asking, tree, 0⟩

inductive Move where
  | send (frame : Frame)
  /-- The sending side goes away. -/
  | leave
  | take
  | write
  | stop
deriving Repr, DecidableEq

inductive Reply where
  /-- The sending side goes on; it may have counted the frame as dropped. -/
  | sent (dropped : Bool)
  | left
  | took (frame : Frame)
  /-- There is nothing to take yet. -/
  | waiting
  | wrote (frame : Frame) (result : Except OutputError Unit)
  | finished
  | stopped

/-- One move, unless its side is gone or in the middle of something else. -/
def step (writer : Writer) : Move → Option (Writer × Reply)
  | .send frame =>
      if writer.sending then
        let (handoff, _) := writer.handoff.send frame
        some ({ writer with handoff }, .sent (writer.handoff.dropped < handoff.dropped))
      else none
  | .leave =>
      if writer.sending then some ({ writer with sending := false }, .left) else none
  | .take =>
      if writer.phase = .asking then
        match writer.handoff.receive with
        | (handoff, some frame) =>
            some ({ writer with handoff, phase := .writing frame }, .took frame)
        | (handoff, none) =>
            if writer.sending then some ({ writer with handoff }, .waiting)
            else
              some ({ writer with handoff := handoff.close, phase := .finished }, .finished)
      else none
  | .write =>
      match writer.phase with
      | .writing frame =>
          let done := writer.directory.write writer.tree frame
          let written := match done.result with
            | .ok () => writer.written + 1
            | .error _ => writer.written
          some ({ writer with phase := .asking, tree := done.tree, written },
            .wrote frame done.result)
      | _ => none
  | .stop =>
      if writer.phase.isRunning then
        some ({ writer with handoff := writer.handoff.close, phase := .stopped }, .stopped)
      else none

inductive Run : Writer → List (Move × Reply) → Writer → Prop where
  | nil {writer : Writer} : Run writer [] writer
  | cons {writer next last : Writer} {move : Move} {reply : Reply}
      {log : List (Move × Reply)} (hstep : writer.step move = some (next, reply))
      (hrest : Run next log last) : Run writer ((move, reply) :: log) last

end Writer

end Framecast.Output
