import Framecast.Command.Receive
import Framecast.Command.Send

/-!
# The program

`framecast send` and `framecast receive` connect the commands to the machine.
Datagrams travel as lines of hexadecimal digits, out on the standard output of
the one and in on the standard input of the other.
-/

namespace Framecast.Main

open Framecast.Command
open Framecast.Files (Node Path Tree)
open Framecast.Files.PathText (names)
open Framecast.Sending (Link)

def textOf (path : Path) : String :=
  if path = .root then "/" else path.text

/-- Look up what is on the way along some names, and put it into the tree. -/
def load (tree : Tree) (path : Path) : List String → IO Tree
  | [] => pure tree
  | name :: rest => do
      let next := path.follow name
      let place := (← IO.currentDir) / textOf next
      if ← place.isDir then
        load (tree.put next .directory) next rest
      else if ← place.pathExists then
        let contents ← IO.FS.readBinFile place
        pure (tree.put next (.file contents.toList))
      else pure tree

def loadAll (texts : List String) : IO Tree := do
  let working := names (← IO.currentDir).toString
  let tree ← load ⟨[], .ofNames working⟩ .root working
  texts.foldlM (fun tree text => load tree (tree.start text) (names text)) tree

def store (before after : Tree) : IO Unit :=
  after.entries.forM fun (path, node) => do
    if before.lookup path = some node then pure ()
    else
      match node with
      | .directory => IO.FS.createDirAll (textOf path)
      | .file contents => IO.FS.writeBinFile (textOf path) (ByteArray.mk contents.toArray)

def finish (before : Tree) (outcome : Outcome) : IO UInt32 := do
  store before outcome.tree
  match outcome.report with
  | none => pure ()
  | some report => IO.eprint report
  pure (UInt32.ofNat outcome.status)

def usage : String :=
  "usage: framecast send [options] <ip> <port>\n       framecast receive [options]\n"

def halt (stop : Stop) : IO UInt32 := do
  if stop = .help then IO.print usage else IO.eprint usage
  pure (UInt32.ofNat stop.status)

def send (words : List String) : IO UInt32 :=
  match SendRequest.ofArguments words with
  | .error stop => halt stop
  | .ok request => do
      let tree ← loadAll (request.input.toList ++ request.headerDump.toList)
      let seed ← match request.seed with
        | some seed => pure seed
        | none => do pure (UInt64.ofNat (← IO.rand 0 (UInt64.size - 1)))
      let (outcome, _, record) := request.run Link.up.recorded tree (.ofSeed seed) ((), #[])
      for datagram in Sending.wire record do
        IO.println (Text.hexOfBytes datagram)
      finish tree outcome

/-- The datagrams on the standard input, up to its end. -/
partial def readDatagrams (input : IO.FS.Stream) (newestFirst : List Bytes) :
    IO (List Bytes) := do
  let line ← input.getLine
  if line.isEmpty then pure newestFirst.reverse
  else
    let digits := line.toList.filter fun c => !c.isWhitespace
    readDatagrams input ((Text.bytesOfHex? digits).toList ++ newestFirst)

def receive (words : List String) : IO UInt32 :=
  match ReceiveRequest.ofArguments words with
  | .error stop => halt stop
  | .ok request => do
      let given :=
        request.configuration.toList ++ request.statistics.toList ++ request.traceDump.toList
      let configured ← loadAll given
      let directory := match request.readConfiguration configured with
        | .error _ => []
        | .ok configuration => [(request.override configuration).outputDirectory]
      let tree ← loadAll (given ++ directory)
      match request.prepare tree with
      | .error chain => finish tree ⟨tree, .error chain⟩
      | .ok ready =>
          finish tree (ready.run (← readDatagrams (← IO.getStdin) []))

end Framecast.Main

/-- Run the command that the first word names. -/
def main (words : List String) : IO UInt32 :=
  match words with
  | "send" :: rest => Framecast.Main.send rest
  | "receive" :: rest => Framecast.Main.receive rest
  | ["--help"] => Framecast.Main.halt .help
  | _ => Framecast.Main.halt .refused
