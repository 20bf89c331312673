import Framecast.Command.Address
import Framecast.Command.Arguments
import Framecast.Command.Outcome
import Framecast.Image.Source
import Framecast.Sending.Sender

/-!
# The command that sends

Images from a file or a gradient are encoded and sent as frames.  The header of
the first frame may be kept in a file, to compare it with what arrives.
-/

namespace Framecast.Command

open Framecast.Decimal (Double)
open Framecast.Sending (Link Random Sender)

structure SendRequest where
  address : Address
  udpPort : UInt16
  /-- The file with the raw image; without one a gradient is sent. -/
  input : Option String
  shape : Image.Shape
  frames : Nat
  /-- Milliseconds between two frames. -/
  frameInterval : Nat
  /-- Microseconds between two packets of a frame. -/
  packetGap : Nat
  /-- How often a packet is sent again after a passing fault. -/
  maxRetries : Nat
  /-- The fraction of the packets that are left out on purpose. -/
  dropRate : Double
  shuffle : Bool
  /-- Where random choices start; without a seed they differ from run to run. -/
  seed : Option UInt64
  /-- Where the header of the first frame is kept. -/
  headerDump : Option String
deriving Repr, DecidableEq

namespace SendRequest

def absent : SendRequest where
  address := .four [0, 0, 0, 0]
  udpPort := 0
  input := none
  shape := ⟨1920, 1080, 12⟩
  frames := 1
  frameInterval := 33
  packetGap := 0
  maxRetries := 5
  dropRate := .finite false .zero
  shuffle := false
  seed := none
  headerDump := none

def long (name : String) (action : Action SendRequest) : Switch SendRequest :=
  ⟨name, none, action⟩

def lettered (name : String) (letter : Char) (action : Action SendRequest) :
    Switch SendRequest :=
  ⟨name, some letter, action⟩

def number (read : Nat → String → Option Nat) (limit : Nat)
    (set : Nat → SendRequest → SendRequest) : Action SendRequest :=
  .value fun text request => (read limit text).map fun n => set n request

def mapShape (change : Image.Shape → Image.Shape) (request : SendRequest) : SendRequest :=
  { request with shape := change request.shape }

def switches : List (Switch SendRequest) :=
  [lettered "help" 'h' .help,
    lettered "input" 'i' (.value fun text request =>
      (path? text).map fun path => { request with input := some path }),
    long "width" (number signedNumber? (UInt16.size - 1) fun n =>
      mapShape fun shape => { shape with width := UInt16.ofNat n }),
    long "height" (number signedNumber? (UInt16.size - 1) fun n =>
      mapShape fun shape => { shape with height := UInt16.ofNat n }),
    long "bitdepth" (number signedNumber? (UInt8.size - 1) fun n =>
      mapShape fun shape => { shape with bitDepth := UInt8.ofNat n }),
    lettered "frames" 'n' (number signedNumber? (UInt32.size - 1) fun n request =>
      { request with frames := n }),
    long "frame-interval-ms" (number unsignedNumber? (UInt64.size - 1) fun n request =>
      { request with frameInterval := n }),
    long "packet-gap-us" (number unsignedNumber? (UInt64.size - 1) fun n request =>
      { request with packetGap := n }),
    long "max-retries" (number signedNumber? (UInt32.size - 1) fun n request =>
      { request with maxRetries := n }),
    long "drop-rate" (.value fun text request =>
      (Decimal.double? text).map fun dropRate => { request with dropRate }),
    long "shuffle" (.mark fun request => { request with shuffle := true }),
    long "seed" (number unsignedNumber? (UInt64.size - 1) fun n request =>
      { request with seed := some (UInt64.ofNat n) }),
    long "header-dump" (.value fun text request =>
      (path? text).map fun path => { request with headerDump := some path })]

def usage : Usage SendRequest where
  switches
  operands :=
    [fun text request => (Address.parse? text).map fun address => { request with address },
      fun text request => (signedNumber? (UInt16.size - 1) text).map fun n =>
        { request with udpPort := UInt16.ofNat n }]

def ofArguments (words : List String) : Except Stop SendRequest :=
  usage.read absent words

/-- Refuse what cannot be sent, the fraction to leave out first. -/
def check (request : SendRequest) : Except Text.FailureChain Unit :=
  let bits := request.shape.bitDepth
  if request.dropRate.inUnitInterval = false then
    .error ["--drop-rate must be between 0 and 1, got " ++ request.dropRate.text]
  else if bits = 0 ∨ 16 < bits then
    .error [s!"--bitdepth must be between 1 and 16, got {bits.toNat}"]
  else .ok ()

def source (request : SendRequest) : Image.Source :=
  match request.input with
  | some path => .file path
  | none => .gradient request.shape

def sender (request : SendRequest) (random : Random) : Sender :=
  .new ⟨.ofRate request.dropRate, request.shuffle⟩ request.maxRetries random

def frame (request : SendRequest) (tree : Files.Tree) (index : Nat) :
    Except Text.FailureChain (Image.Header × Image.Raw) := do
  match request.source.raw tree index with
  | .error cause => .error cause.chain
  | .ok raw =>
      match request.shape.header raw.size with
      | .error cause => .error ["failed to encode frame", cause.message]
      | .ok header => .ok (header, raw)

/-- Keep the header of the first frame, if that is asked for. -/
def keepHeader (request : SendRequest) (tree : Files.Tree) (index : Nat)
    (header : Image.Header) : Except Text.FailureChain Files.Tree :=
  match index, request.headerDump with
  | 0, some path => Outcome.writeFile tree "failed to write header" path header.encode
  | _, _ => .ok tree

structure Progress (σ : Type) where
  tree : Files.Tree
  sender : Sender
  linkState : σ

section
variable {σ : Type} (request : SendRequest) (link : Link σ)

/-- Send `count` frames, from number `index` on.  A frame that is too large is refused
before its pixels are generated. -/
def sendFrom (index : Nat) :
    Nat → Progress σ → Progress σ × Except Text.FailureChain Unit
  | 0, progress => (progress, .ok ())
  | count + 1, progress =>
      match request.frame progress.tree index with
      | .error chain => (progress, .error chain)
      | .ok (header, raw) =>
          match request.keepHeader progress.tree index header with
          | .error chain => (progress, .error chain)
          | .ok tree =>
              match progress.sender.checkSize (Image.headerSize + raw.size) with
              | .error cause => ({ progress with tree }, .error cause.chain)
              | .ok () =>
                  match progress.sender.send link (header.encode ++ raw.pixels)
                    progress.linkState with
                  | (.error cause, sender, last) => (⟨tree, sender, last⟩, .error cause.chain)
                  | (.ok _, sender, last) => sendFrom (index + 1) count ⟨tree, sender, last⟩

def run (tree : Files.Tree) (random : Random) (state : σ) : Outcome × σ :=
  match request.check with
  | .error chain => (⟨tree, .error chain⟩, state)
  | .ok () =>
      let start : Progress σ := ⟨tree, request.sender random, state⟩
      let (progress, result) := request.sendFrom link 0 request.frames start
      (⟨progress.tree, result⟩, progress.linkState)

end

end SendRequest

end Framecast.Command
