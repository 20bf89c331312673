import Framecast.Assembly.Settings
import Framecast.Toml.Document

/-!
# Configuration of the receiver

A configuration text overrides defaults.  Keys that mean nothing here are ignored;
a key that is known must have a value of the right kind and size.
-/

namespace Framecast.Command

open Framecast.Assembly (Settings)
open Framecast.Toml (Entries Value)

structure Configuration where
  /-- Address to receive on. -/
  host : String
  udpPort : UInt16
  /-- Directory that retired frames are written to. -/
  outputDirectory : String
  writeFrames : Bool
  /-- Size of the receive buffer of the system. -/
  receiveBufferSize : Nat
  /-- Frames that may wait for the writer. -/
  writerQueue : Nat
  /-- Seconds between two reports of the statistics; zero for none. -/
  statisticsInterval : Nat
  reassembly : Settings
deriving Repr, DecidableEq

namespace Configuration

def default : Configuration where
  host := "0.0.0.0"
  udpPort := 5000
  outputDirectory := "frames"
  writeFrames := true
  receiveBufferSize := 16 * 1024 * 1024
  writerQueue := 8
  statisticsInterval := 5
  reassembly := Settings.default

def count? : Value → Option Nat
  | .integer n => if 0 ≤ n then some n.toNat else none
  | _ => none

def udpPort? (value : Value) : Option UInt16 := do
  let n ← count? value
  if n < UInt16.size then some (UInt16.ofNat n) else none

def text? : Value → Option String
  | .text s => some s
  | _ => none

def flag? : Value → Option Bool
  | .flag b => some b
  | _ => none

/-- A whole number of milliseconds, in nanoseconds. -/
def milliseconds? (value : Value) : Option Nat :=
  (count? value).map (· * Settings.millisecond)

/-- The value of a key as `read` takes it, or the given one if the key is missing. -/
def field {α : Type} (find : String → Option Value) (key : String)
    (read : Value → Option α) (absent : α) : Option α :=
  match find key with
  | none => some absent
  | some value => read value

/-- The keys of the reassembly settings, in the order of their values in an array. -/
def settingKeys : List String :=
  ["max_frame_size", "payload_stride", "max_payload_size", "queue_capacity",
    "frame_idle_timeout_ms", "max_frame_lifetime_ms", "sweep_interval_ms",
    "pop_timeout_ms", "shutdown_grace_ms", "max_in_flight_frames", "buffer_pool_size"]

/-- Reassembly settings from the values of their keys. -/
def settings? (find : String → Option Value) : Option Settings := do
  let absent := Settings.default
  let maxFrameSize ← field find "max_frame_size" count? absent.maxFrameSize
  let stride ← field find "payload_stride" count? absent.stride
  let maxPayload ← field find "max_payload_size" count? absent.maxPayload
  let queueCapacity ← field find "queue_capacity" count? absent.queueCapacity
  let idleTimeout ← field find "frame_idle_timeout_ms" milliseconds? absent.idleTimeout
  let maxLifetime ← field find "max_frame_lifetime_ms" milliseconds? absent.maxLifetime
  let sweepInterval ← field find "sweep_interval_ms" milliseconds? absent.sweepInterval
  let popTimeout ← field find "pop_timeout_ms" milliseconds? absent.popTimeout
  let shutdownGrace ← field find "shutdown_grace_ms" milliseconds? absent.shutdownGrace
  let maxInFlight ←
    field find "max_in_flight_frames" (fun value => (count? value).map some)
      absent.maxInFlight
  let spareBuffers ← field find "buffer_pool_size" count? absent.spareBuffers
  some {
    maxFrameSize, stride, maxPayload, queueCapacity, idleTimeout, maxLifetime,
    sweepInterval, popTimeout, shutdownGrace, maxInFlight, spareBuffers }

/-- Reassembly settings by key or by position; a moment in time stands for none. -/
def reassembly? : Value → Option Settings
  | .table _ entries => settings? fun key => Entries.find? entries key
  | .array items => settings? fun key => List.lookup key (settingKeys.zip items)
  | .moment => settings? fun _ => none
  | _ => none

def ofEntries? (entries : Entries) : Option Configuration := do
  let absent := Configuration.default
  let find := fun key => Entries.find? entries key
  let host ← field find "host" text? absent.host
  let udpPort ← field find "port" udpPort? absent.udpPort
  let outputDirectory ← field find "output_dir" text? absent.outputDirectory
  let writeFrames ← field find "write_frames" flag? absent.writeFrames
  let receiveBufferSize ← field find "recv_buffer_bytes" count? absent.receiveBufferSize
  let writerQueue ← field find "writer_queue" count? absent.writerQueue
  let statisticsInterval ←
    field find "stats_interval_secs" count? absent.statisticsInterval
  let reassembly ← field find "reassembly" reassembly? absent.reassembly
  some {
    host, udpPort, outputDirectory, writeFrames, receiveBufferSize, writerQueue,
    statisticsInterval, reassembly }

def parse? (text : String) : Option Configuration :=
  (Toml.parse? text).bind ofEntries?

end Configuration

end Framecast.Command
