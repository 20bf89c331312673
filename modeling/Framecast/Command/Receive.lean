import Framecast.Command.Address
import Framecast.Command.Arguments
import Framecast.Command.Configuration
import Framecast.Command.Outcome
import Framecast.Observation.Observer
import Framecast.Output.FrameFiles
import Framecast.Output.Handoff
import Framecast.Reassembly.Worker
import Framecast.Reception.Intake

/-!
# The command that receives

Everything that can be refused is refused before the first datagram: the
configuration, the settings, the address, the output directory, in this order.
At the end the frames still in flight retire in the order of their ids; then the
trace and the summary of the run are written.
-/

namespace Framecast.Command

open Framecast.Observation (Observer Trace)
open Framecast.Output (Directory Handoff)
open Framecast.Reception (Intake)

structure ReceiveRequest where
  configuration : Option String
  host : Option String
  udpPort : Option UInt16
  outputDirectory : Option String
  noWrite : Bool
  /-- Where the summary of the run goes. -/
  statistics : Option String
  /-- Where the trace goes. -/
  traceDump : Option String
deriving Repr, DecidableEq

namespace ReceiveRequest

def absent : ReceiveRequest :=
  ⟨none, none, none, none, false, none, none⟩

def path (set : String → ReceiveRequest → ReceiveRequest) : Action ReceiveRequest :=
  .value fun text request => (path? text).map fun path => set path request

def usage : Usage ReceiveRequest where
  switches :=
    [⟨"help", some 'h', .help⟩,
      ⟨"config", some 'c', path fun path request =>
        { request with configuration := some path }⟩,
      ⟨"host", none, .value fun text request => some { request with host := some text }⟩,
      ⟨"port", some 'p', .value fun text request =>
        (signedNumber? (UInt16.size - 1) text).map fun n =>
          { request with udpPort := some (UInt16.ofNat n) }⟩,
      ⟨"output-dir", some 'o', path fun path request =>
        { request with outputDirectory := some path }⟩,
      ⟨"no-write", none, .mark fun request => { request with noWrite := true }⟩,
      ⟨"stats-json", none, path fun path request =>
        { request with statistics := some path }⟩,
      ⟨"trace-dump", none, path fun path request =>
        { request with traceDump := some path }⟩]
  operands := []

def ofArguments (words : List String) : Except Stop ReceiveRequest :=
  usage.read absent words

def readText (tree : Files.Tree) (path : String) : Except Files.FileFault String := do
  let contents ← tree.read path
  match String.fromUTF8? (ByteArray.mk contents.toArray) with
  | none => .error .notText
  | some text => .ok text

/-- The configuration in the file that is asked for, or the default one. -/
def readConfiguration (request : ReceiveRequest) (tree : Files.Tree) :
    Except Text.FailureChain Configuration :=
  match request.configuration with
  | none => .ok .default
  | some path =>
      match readText tree path with
      | .error fault => .error ["failed to read config file: " ++ path, fault.message]
      | .ok text =>
          match Configuration.parse? text with
          | none => .error ["invalid config file: " ++ path, "invalid config"]
          | some configuration => .ok configuration

/-- What the command line says goes before what the configuration says. -/
def override (request : ReceiveRequest) (configuration : Configuration) : Configuration :=
  { configuration with
    host := request.host.getD configuration.host
    udpPort := request.udpPort.getD configuration.udpPort
    outputDirectory := request.outputDirectory.getD configuration.outputDirectory
    writeFrames := configuration.writeFrames && !request.noWrite }

def checkEndpoint (configuration : Configuration) : Except Text.FailureChain Unit :=
  let endpoint := configuration.host ++ s!":{configuration.udpPort.toNat}"
  match Address.ofHost? configuration.host with
  | none => .error ["invalid UDP address " ++ endpoint, "invalid socket address syntax"]
  | some address =>
      match address.bind configuration.udpPort with
      | .error fault => .error ["failed to bind UDP on " ++ endpoint, fault.message]
      | .ok () => .ok ()

structure Ready where
  request : ReceiveRequest
  configuration : Configuration
  tree : Files.Tree
  /-- Where frames are written, if they are. -/
  directory : Option Directory
  reassembly : Reassembly

/-- The observers of a receiver: the log, and a trace if one is to be written. -/
def observer (request : ReceiveRequest) : Observer :=
  .group (.logger :: match request.traceDump with
    | none => []
    | some _ => [.trace (.new Trace.defaultCapacity)])

def prepare (request : ReceiveRequest) (tree : Files.Tree) :
    Except Text.FailureChain Ready := do
  let configuration := request.override (← request.readConfiguration tree)
  let reassembly ←
    match Reassembly.create configuration.reassembly request.observer.tracesMissing with
    | .error cause => .error ["invalid reassembly settings", cause.message]
    | .ok reassembly => pure reassembly
  checkEndpoint configuration
  if configuration.writeFrames then
    match Directory.create tree configuration.outputDirectory with
    | .error cause => .error cause.chain
    | .ok (tree, directory) =>
        pure ⟨request, configuration, tree, some directory, reassembly⟩
  else pure ⟨request, configuration, tree, none, reassembly⟩

end ReceiveRequest

structure Session where
  /-- The intake with its queue; the trace watches the reassembly too. -/
  intake : Intake
  reassembly : Reassembly
  handoff : Handoff
  /-- The frames that the writer got, the last in front. -/
  newestFirst : List Assembly.Frame

namespace Session

def initial (ready : ReceiveRequest.Ready) : Session where
  intake :=
    .initial ready.configuration.reassembly.maxPayload
      ready.configuration.reassembly.queueCapacity
      (ready.request.traceDump.map fun _ => .new Trace.defaultCapacity)
  reassembly := ready.reassembly
  handoff := match ready.directory with
    | none => .withoutWriter
    | some _ => .toWriter ready.configuration.writerQueue
  newestFirst := []

/-- Hand a retired frame over; the writer takes it at once. -/
def handOver (session : Session) (frame : Assembly.Frame) : Session :=
  let (handoff, _) := session.handoff.send frame
  let (handoff, taken) := handoff.receive
  { session with handoff, newestFirst := taken.toList ++ session.newestFirst }

def absorb (session : Session) (signals : List Reassembly.Signal) : Session :=
  let events := Reassembly.Signal.events signals
  let trace := session.intake.trace.map fun trace => events.foldl Trace.observe trace
  let session := { session with intake := { session.intake with trace } }
  (Reassembly.Signal.frames signals).foldl handOver session

/-- Take in one datagram, and take its packet out of the queue again. -/
def receive (now : Nat) (session : Session) (datagram : Bytes) : Session :=
  let (intake, _) := session.intake.receive datagram
  let (worker, _, signals) :=
    Reassembly.Worker.step ⟨intake.queue, session.reassembly⟩ (.take now)
  { session with
    intake := { intake with queue := worker.queue }
    reassembly := worker.reassembly }.absorb signals

/-- Take in datagrams in order, one in each unit of time. -/
def receiveAll (now : Nat) (session : Session) : List Bytes → Session
  | [] => session
  | datagram :: rest => receiveAll (now + 1) (session.receive now datagram) rest

def drain (session : Session) : Session :=
  let (reassembly, _, signals) := session.reassembly.drain session.intake.queue.dropped
  { session with reassembly }.absorb signals

def report (session : Session) : Statistics.Report where
  frames := session.handoff.tally
  datagrams := session.intake.totals
  queueDrops := session.intake.queue.dropped
  framesNotWritten := session.handoff.dropped

end Session

namespace ReceiveRequest

/-- Write a text to a file, if a path is given and there is a text. -/
def writeText (tree : Files.Tree) (failure : String) (path text : Option String) :
    Except Text.FailureChain Files.Tree :=
  match path, text with
  | some path, some text => Outcome.writeFile tree failure path text.toUTF8.toList
  | _, _ => .ok tree

/-- Write the trace and the summary; what was written before a failure stays. -/
def writeSummaries (request : ReceiveRequest) (session : Session) (tree : Files.Tree) :
    Outcome :=
  let trace := session.intake.trace.map Trace.text
  match writeText tree "failed to write trace dump" request.traceDump trace with
  | .error chain => ⟨tree, .error chain⟩
  | .ok tree =>
      let report := some session.report.text
      match writeText tree "failed to write stats" request.statistics report with
      | .error chain => ⟨tree, .error chain⟩
      | .ok tree => ⟨tree, .ok ()⟩

def Ready.run (ready : Ready) (datagrams : List Bytes) : Outcome :=
  let session := ((Session.initial ready).receiveAll 0 datagrams).drain
  let tree := match ready.directory with
    | none => ready.tree
    | some directory => (directory.writeAll ready.tree session.newestFirst.reverse).1
  ready.request.writeSummaries session tree

end ReceiveRequest

end Framecast.Command
