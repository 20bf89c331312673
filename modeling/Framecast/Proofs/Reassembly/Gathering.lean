import Framecast.Proofs.Reassembly.History

/-!
# The packets that a life gathers

While a frame is not handed over, its life gathers exactly the packets that the
calls bring for it, in their order.  Without a cap on the frames in flight none of
them is lost, since none is refused as late.
-/

namespace Framecast

open Framecast.Assembly (Attempt Settings)

namespace Reassembly

structure Content where
  header : Datagram.Header
  payload : Bytes
  gapHint : Bool
deriving Repr, DecidableEq

def Content.ofPacket (packet : Reception.Packet) : Content where
  header := packet.header
  payload := packet.payload
  gapHint := packet.gapBefore

def Content.ofAttempt (attempt : Attempt) : Content where
  header := attempt.header
  payload := attempt.payload
  gapHint := attempt.gapHint

def Call.packet? (frameId : UInt32) : Call → Option Reception.Packet
  | .push packet _ _ => if packet.frameId = frameId then some packet else none
  | _ => none

def packetsFor (frameId : UInt32) (calls : List Call) : List Reception.Packet :=
  calls.filterMap (Call.packet? frameId)

theorem packetsFor_append (frameId : UInt32) (calls later : List Call) :
    packetsFor frameId (calls ++ later) =
      packetsFor frameId calls ++ packetsFor frameId later :=
  List.filterMap_append ..

theorem packetsFor_of_other {frameId : UInt32} {call : Call}
    (h : call.frameId? ≠ some frameId) : packetsFor frameId [call] = [] := by
  cases call with
  | push packet drops now =>
      have hother : packet.frameId ≠ frameId := fun hframe => h (congrArg some hframe)
      simp [packetsFor, Call.packet?, hother]
  | sweep => rfl
  | drain => rfl

theorem packetsFor_push {frameId : UInt32} {packet : Reception.Packet}
    (h : packet.frameId = frameId) (drops now : Nat) :
    packetsFor frameId [.push packet drops now] = [packet] := by
  simp [packetsFor, Call.packet?, h]

def gathered (life? : Option Life) : List Content :=
  ((life?.map Life.attempts).getD []).map Content.ofAttempt

theorem gathered_record (life : Life) (packet : Reception.Packet)
    (outcome : Assembly.Outcome) (now : Nat) :
    gathered (some (life.record packet outcome now)) =
      gathered (some life) ++ [Content.ofPacket packet] := by
  simp [gathered, Life.record, Content.ofPacket, Content.ofAttempt]

/-- As long as its frame stays, a life gathers the packets that are brought for it. -/
theorem Turn.gathered_next {settings : Settings} {reportsMissing : Bool} {frameId : UInt32}
    (huncapped : settings.maxInFlight = none) {call : Call} {before after : Option Flight}
    {reply : Reply} {signals : List Signal} {life? : Option Life}
    (h : Turn settings reportsMissing frameId call before reply signals after)
    (hlife : Option.Rel (Life.Describes settings frameId) life? before)
    (hstays : Signal.frames signals = []) :
    gathered (Life.next frameId life? call reply signals) =
      gathered life? ++ (packetsFor frameId [call]).map Content.ofPacket := by
  cases h with
  | passed hother =>
      rw [Life.next_of_other hother, packetsFor_of_other hother]
      exact (List.append_nil _).symm
  | retired =>
      rw [frames_retireSignals] at hstays
      exact absurd hstays (by simp)
  | evicted _ hcapped => exact absurd huncapped hcapped
  | refused _ hcapped => exact absurd huncapped hcapped
  | @opened packet drops now _ _ outcome hframe =>
      cases hlife
      rw [Life.next_of_opened hframe, packetsFor_push hframe]
      exact gathered_record (Life.opened packet.header drops now) packet outcome now
  | @received packet drops now _ outcome hframe =>
      cases hlife with
      | @some life =>
          rw [Life.next_of_received hframe, packetsFor_push hframe]
          exact gathered_record life packet outcome now

theorem Sound.gathered_follow {reassembly : Reassembly} (h : reassembly.Sound)
    (huncapped : reassembly.settings.maxInFlight = none) {frameId : UInt32}
    {calls : List Call} {life? : Option Life}
    (hlife : Option.Rel (Life.Describes reassembly.settings frameId) life?
      (reassembly.find? frameId))
    (hstays : framesOf frameId (reassembly.trail calls) = []) :
    gathered (Life.follow frameId life? (reassembly.trail calls)) =
      gathered life? ++ (packetsFor frameId calls).map Content.ofPacket := by
  induction calls generalizing reassembly life? with
  | nil => exact (List.append_nil _).symm
  | cons call rest ih =>
      have hstep := h.step call
      have hturn := (h.turn call frameId).2
      rw [trail_cons, framesOf_cons, List.append_eq_nil_iff] at hstays
      have hnext := hturn.describes hlife
      have hone := hturn.gathered_next huncapped hlife hstays.1
      rw [← hstep.settings_eq] at huncapped hnext
      have hrest := ih hstep.sound huncapped hnext hstays.2
      rw [hone] at hrest
      rw [← List.singleton_append, packetsFor_append, List.map_append, ← List.append_assoc]
      exact hrest

/-- A frame that was not in flight has gathered just what has been brought for it since. -/
theorem gathered_lifeOf {settings : Settings} {reportsMissing : Bool} {start : Reassembly}
    (hstart : create settings reportsMissing = .ok start)
    (huncapped : settings.maxInFlight = none) {earlier calls : List Call} {frameId : UInt32}
    (habsent : (start.run earlier).1.isInFlight frameId = false)
    (hstays : framesOf frameId ((start.run earlier).1.trail calls) = []) :
    gathered (lifeOf frameId (start.trail (earlier ++ calls))) =
      (packetsFor frameId calls).map Content.ofPacket := by
  have hrun := (sound_of_create hstart).run earlier
  have hsettings : (start.run earlier).1.settings = settings := by
    rw [hrun.settings_eq, eq_initial_of_create hstart]
    rfl
  have hnone : lifeOf frameId (start.trail earlier) = none := by
    rw [← Option.isNone_iff_eq_none, ← Option.not_isSome, isSome_lifeOf hstart, habsent]
    rfl
  have hlife := lifeOf_describes hstart earlier frameId
  rw [← hsettings] at hlife huncapped
  have hgathered := hrun.sound.gathered_follow huncapped hlife hstays
  rw [trail_append, lifeOf_append, hgathered, hnone]
  rfl

end Reassembly

end Framecast
