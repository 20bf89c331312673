import Framecast.Reception.Packet
import Framecast.Text.Duration

/-!
# Settings of the reassembly

Sizes in bytes and packets, times in nanoseconds.  `check` refuses settings under
which a packet of legal size could fail to fit its slot, or a timer could never
be seen to expire.
-/

namespace Framecast.Assembly

structure Settings where
  /-- Capacity of one frame buffer. -/
  maxFrameSize : Nat
  /-- Bytes between the places of two neighbouring packets in a frame. -/
  stride : Nat
  /-- Largest payload that is let in. -/
  maxPayload : Nat
  /-- Capacity of the packet queue. -/
  queueCapacity : Nat
  /-- A frame retires after this long without an accepted packet. -/
  idleTimeout : Nat
  /-- A frame retires this long after its first packet at the latest. -/
  maxLifetime : Nat
  /-- How often the timers are looked at. -/
  sweepInterval : Nat
  /-- Longest single wait for a packet. -/
  popTimeout : Nat
  /-- How long the queue must stay empty before the last frames are drained. -/
  shutdownGrace : Nat
  /-- Most frames in flight at once, if there is a limit. -/
  maxInFlight : Option Nat
  /-- Most idle frame buffers kept for reuse. -/
  spareBuffers : Nat
deriving Repr, DecidableEq

/-- A setting that must not be zero. -/
inductive Setting where
  | maxFrameSize
  | stride
  | maxPayload
  | queueCapacity
  | maxInFlight
  | idleTimeout
  | maxLifetime
  | sweepInterval
  | popTimeout
deriving Repr, DecidableEq

def Setting.name : Setting → String
  | .maxFrameSize => "max_frame_size"
  | .stride => "payload_stride"
  | .maxPayload => "max_payload_size"
  | .queueCapacity => "queue_capacity"
  | .maxInFlight => "max_in_flight_frames"
  | .idleTimeout => "frame_idle_timeout"
  | .maxLifetime => "max_frame_lifetime"
  | .sweepInterval => "sweep_interval"
  | .popTimeout => "pop_timeout"

inductive SettingsError where
  | zero (setting : Setting)
  | strideTooSmall (stride maxPayload : Nat)
  | payloadExceedsCapacity (maxPayload : Nat)
  | frameSmallerThanStride (maxFrameSize stride : Nat)
  | idleExceedsLifetime (idle lifetime : Nat)
deriving Repr, DecidableEq

def SettingsError.message : SettingsError → String
  | .zero setting => setting.name ++ " must be non-zero"
  | .strideTooSmall stride maxPayload =>
      s!"payload stride {stride} is smaller than the maximum payload size {maxPayload}"
  | .payloadExceedsCapacity maxPayload =>
      s!"maximum payload size {maxPayload} exceeds the packet buffer capacity " ++
        toString Reception.payloadCapacity
  | .frameSmallerThanStride maxFrameSize stride =>
      s!"max frame size {maxFrameSize} cannot hold a single {stride}-byte packet slot"
  | .idleExceedsLifetime idle lifetime =>
      "idle timeout " ++ Text.durationText idle ++
        " exceeds max frame lifetime " ++ Text.durationText lifetime

namespace Settings

/-- One frame of the largest supported image, at two bytes for each pixel. -/
def defaultMaxFrameSize : Nat := 4096 * 2160 * 2

def defaultQueueCapacity : Nat := 4096 * 4

def millisecond : Nat := 1000000

def default : Settings where
  maxFrameSize := defaultMaxFrameSize
  stride := Datagram.maxPayload
  maxPayload := Datagram.maxPayload
  queueCapacity := defaultQueueCapacity
  idleTimeout := 30 * millisecond
  maxLifetime := 8000 * millisecond
  sweepInterval := 5 * millisecond
  popTimeout := 1 * millisecond
  shutdownGrace := 100 * millisecond
  maxInFlight := none
  spareBuffers := 4

/-- The settings that must not be zero, in the order in which they are looked at. -/
def nonZero (settings : Settings) : List (Setting × Nat) :=
  [(.maxFrameSize, settings.maxFrameSize),
    (.stride, settings.stride),
    (.maxPayload, settings.maxPayload),
    (.queueCapacity, settings.queueCapacity),
    (.maxInFlight, settings.maxInFlight.getD 1),
    (.idleTimeout, settings.idleTimeout),
    (.maxLifetime, settings.maxLifetime),
    (.sweepInterval, settings.sweepInterval),
    (.popTimeout, settings.popTimeout)]

def check (settings : Settings) : Except SettingsError Unit :=
  match settings.nonZero.find? (fun entry => entry.2 = 0) with
  | some (setting, _) => .error (.zero setting)
  | none =>
      if Reception.payloadCapacity < settings.maxPayload then
        .error (.payloadExceedsCapacity settings.maxPayload)
      else if settings.stride < settings.maxPayload then
        .error (.strideTooSmall settings.stride settings.maxPayload)
      else if settings.maxFrameSize < settings.stride then
        .error (.frameSmallerThanStride settings.maxFrameSize settings.stride)
      else if settings.maxLifetime < settings.idleTimeout then
        .error (.idleExceedsLifetime settings.idleTimeout settings.maxLifetime)
      else .ok ()

end Settings

end Framecast.Assembly
