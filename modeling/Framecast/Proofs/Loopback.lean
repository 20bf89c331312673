import Framecast.Loopback
import Framecast.Proofs.Reassembly.Draining
import Framecast.Proofs.Reception.Screening

/-!
# What a loopback shows

A loopback asks its reassembly for pushes and sweeps and at last for a drain.  It ends with
what a run of these calls ends with, its frames are the frames of that run in order, and
every packet that was sent was refused, dropped by the queue, or pushed.
-/

namespace Framecast.Loopback

open Framecast.Reassembly (Call Emptied Signal Step)

/-! ## Calls -/

def State.ask (state : State) (call : Call) : State :=
  let (reassembly, _, signals) := state.reassembly.step call
  { state with reassembly }.absorb signals

def State.askAll (state : State) (calls : List Call) : State := calls.foldl State.ask state

theorem pushAll_eq_askAll (drops : Nat) (packets : List Reception.Packet) (state : State) :
    State.pushAll drops packets state =
      state.askAll (packets.map fun packet => .push packet drops state.now) := by
  induction packets generalizing state with
  | nil => rfl
  | cons packet rest ih => exact ih _

theorem sweep_eq_ask (state : State) :
    state.sweep = state.ask (.sweep state.intake.queue.dropped state.now) := rfl

structure Keeps (state later : State) : Prop where
  sent_eq : later.sent = state.sent
  queue_eq : later.intake.queue = state.intake.queue
  totals_eq : later.intake.totals = state.intake.totals

theorem keeps_askAll (calls : List Call) (state : State) : Keeps state (state.askAll calls) := by
  induction calls generalizing state with
  | nil => exact ⟨rfl, rfl, rfl⟩
  | cons call rest ih =>
      obtain ⟨hsent, hqueue, htotals⟩ := ih (state.ask call)
      exact ⟨hsent, hqueue, htotals⟩

/-- A run of the calls leads to the reassembly of the state and hands its frames over. -/
structure Explains (start : Reassembly) (calls : List Call) (state : State) : Prop where
  reassembly_eq : (start.run calls).1 = state.reassembly
  frames_eq :
    Signal.frames ((start.trail calls).flatMap Step.signals) = state.newestFirst.reverse

section
variable {start : Reassembly} {calls : List Call} {state : State}

theorem Explains.ask (h : Explains start calls state) (call : Call) :
    Explains start (calls ++ [call]) (state.ask call) where
  reassembly_eq := by
    rw [Reassembly.run_append_state, h.reassembly_eq]
    rfl
  frames_eq := by
    rw [Reassembly.trail_append, h.reassembly_eq, List.flatMap_append, Signal.frames_append,
      h.frames_eq, Reassembly.trail_cons, Reassembly.trail_nil, List.flatMap_singleton,
      Reassembly.signals_perform]
    simp only [State.ask, State.absorb, List.reverse_append, List.reverse_reverse]

theorem Explains.askAll (h : Explains start calls state) (more : List Call) :
    Explains start (calls ++ more) (state.askAll more) := by
  induction more generalizing calls state with
  | nil =>
      rw [List.append_nil]
      exact h
  | cons call rest ih =>
      have hrest := ih (h.ask call)
      rw [List.append_assoc] at hrest
      exact hrest

end

/-! ## Packets -/

/-- A state before the drain: so far only packets were pushed and timers looked at. -/
structure Underway (start : Reassembly) (calls : List Call) (state : State) : Prop
    extends Explains start calls state where
  no_drain : ∀ call ∈ calls, call.isDrain = false
  accounts : state.intake.Accounts state.sent (calls.countP Call.isPush)

section
variable {start : Reassembly} {calls : List Call} {state : State}

/-- The queue is emptied into the reassembly. -/
theorem Underway.empty (h : Underway start calls state) :
    ∃ later, Underway start (calls ++ later) state.empty ∧
      state.empty.intake.queue.packets = [] := by
  let queue := state.intake.queue
  let cleared : State :=
    { state with intake := { state.intake with queue := { queue with packets := [] } } }
  let later := queue.packets.map fun packet => Call.push packet queue.dropped state.now
  have hempty : state.empty = cleared.askAll later := pushAll_eq_askAll ..
  have hkeeps := keeps_askAll later cleared
  have hpushes : later.countP Call.isPush = queue.packets.length := by
    rw [List.countP_map]
    exact List.countP_eq_length.mpr fun _ _ => rfl
  have hcleared : Explains start calls cleared := ⟨h.reassembly_eq, h.frames_eq⟩
  rw [hempty]
  refine ⟨later, { hcleared.askAll later with no_drain := ?_, accounts := ?_ }, ?_⟩
  · rw [List.forall_mem_append]
    exact ⟨h.no_drain, List.forall_mem_map.mpr fun _ _ => rfl⟩
  · obtain ⟨harrived, hpackets⟩ := h.accounts
    rw [List.countP_append, hpushes]
    constructor
    · rw [hkeeps.totals_eq, hkeeps.sent_eq]
      exact harrived
    · rw [hkeeps.totals_eq, hkeeps.queue_eq]
      exact hpackets
  · rw [hkeeps.queue_eq]

theorem Underway.sweep (h : Underway start calls state) :
    ∃ later, Underway start (calls ++ later) state.sweep := by
  refine ⟨[.sweep state.intake.queue.dropped state.now], ?_⟩
  rw [sweep_eq_ask]
  refine { h.toExplains.ask _ with no_drain := ?_, accounts := ?_ }
  · rw [List.forall_mem_append]
    exact ⟨h.no_drain, by simp [Call.isDrain]⟩
  · rw [List.countP_append]
    exact ⟨h.accounts.arrived_eq, h.accounts.packets_eq⟩

theorem Underway.sendPacket (h : Underway start calls state) (setup : Setup)
    (packet : Datagram.Packet) :
    ∃ later, Underway start (calls ++ later) (state.sendPacket setup packet) := by
  let arrived : State :=
    { state with
      now := state.now + setup.spacing
      sent := state.sent + 1
      intake := (state.intake.receive packet.encode).1 }
  have harrived : Underway start calls arrived :=
    { reassembly_eq := h.reassembly_eq
      frames_eq := h.frames_eq
      no_drain := h.no_drain
      accounts := h.accounts.receive packet.encode }
  have hsent : state.sendPacket setup packet =
      if arrived.sent % max setup.batch 1 = 0 then arrived.empty.sweep else arrived := rfl
  rw [hsent]
  split
  · obtain ⟨emptying, hempty, -⟩ := harrived.empty
    obtain ⟨sweeping, hsweep⟩ := hempty.sweep
    rw [List.append_assoc] at hsweep
    exact ⟨_, hsweep⟩
  · exact ⟨[], by rwa [List.append_nil]⟩

theorem Underway.sendPackets (h : Underway start calls state) (setup : Setup)
    (packets : List Datagram.Packet) :
    ∃ later, Underway start (calls ++ later) (packets.foldl (State.sendPacket setup) state) := by
  induction packets generalizing calls state with
  | nil => exact ⟨[], by rwa [List.append_nil]⟩
  | cons packet rest ih =>
      obtain ⟨first, hfirst⟩ := h.sendPacket setup packet
      obtain ⟨later, hlater⟩ := ih hfirst
      rw [List.append_assoc] at hlater
      exact ⟨_, hlater⟩

/-! ## Pictures -/

theorem Underway.sendPicture (h : Underway start calls state) {setup : Setup}
    {picture : Picture} {next : State} (hnext : state.sendPicture setup picture = .ok next) :
    ∃ later, Underway start (calls ++ later) next := by
  unfold State.sendPicture at hnext
  split at hnext
  · exact absurd hnext (by simp)
  split at hnext
  · exact absurd hnext (by simp)
  · obtain rfl := Except.ok.inj hnext
    -- the plan changes the generator alone
    have hplanned : ∀ random, Underway start calls { state with random } :=
      fun random => { h with accounts := h.accounts }
    exact (hplanned _).sendPackets setup _

theorem Underway.sendAll (h : Underway start calls state) {setup : Setup}
    {pictures : List Picture} {last : State} (hlast : state.sendAll setup pictures = .ok last) :
    ∃ later, Underway start (calls ++ later) last := by
  induction pictures generalizing calls state with
  | nil =>
      obtain rfl := Except.ok.inj hlast
      exact ⟨[], by rwa [List.append_nil]⟩
  | cons picture rest ih =>
      unfold State.sendAll at hlast
      split at hlast
      · exact absurd hlast (by simp)
      · rename_i next hnext
        obtain ⟨first, hfirst⟩ := h.sendPicture hnext
        obtain ⟨later, hlater⟩ := ih hfirst hlast
        rw [List.append_assoc] at hlater
        exact ⟨_, hlater⟩

end

theorem underway_initial (setup : Setup) (start : Reassembly) :
    Underway start [] (initial setup start) where
  reassembly_eq := rfl
  frames_eq := rfl
  no_drain := by simp
  accounts := ⟨rfl, rfl⟩

/-! ## Whole loopbacks -/

structure Accounted (start : Reassembly) (calls : List Call) (drops : Nat) (outcome : Outcome) :
    Prop where
  no_drain : ∀ call ∈ calls, call.isDrain = false
  reassembly_eq : (start.run (calls ++ [.drain drops])).1 = outcome.state.reassembly
  frames_eq : outcome.frames =
    Signal.frames ((start.trail (calls ++ [.drain drops])).flatMap Step.signals)
  tally_eq : outcome.tally = Statistics.Tally.addAll {} outcome.frames
  emptied : Emptied outcome.state.reassembly
    ((start.trail (calls ++ [.drain drops])).flatMap Step.signals)
    (calls.countP Call.isPush) outcome.drained
  sent_eq : outcome.state.sent =
    outcome.state.intake.totals.malformed + calls.countP Call.isPush +
      outcome.state.intake.queue.dropped

/-- Nothing that is sent is lost sight of: it was refused, pushed or dropped, and what was
pushed is in the frames of a run, which ends with nothing in flight. -/
theorem accounted_run {setup : Setup} {pictures : List Picture} {outcome : Outcome}
    (h : run setup pictures = .ok outcome) :
    ∃ start calls drops, Reassembly.create setup.settings true = .ok start ∧
      Accounted start calls drops outcome := by
  unfold run at h
  split at h
  · exact absurd h (by simp)
  rename_i start hstart
  split at h
  · exact absurd h (by simp)
  rename_i last hlast
  obtain ⟨sending, hsending⟩ := (underway_initial setup start).sendAll hlast
  obtain ⟨emptying, hunderway, hempty⟩ := hsending.empty
  obtain rfl := Except.ok.inj h
  generalize [] ++ sending ++ emptying = calls at hunderway
  let drops := last.empty.intake.queue.dropped
  have hdrained := hunderway.toExplains.ask (.drain drops)
  have hcount : (start.run calls).1.flights.length =
      (last.empty.reassembly.drain drops).2.1 := by
    rw [hunderway.reassembly_eq]
    simp only [Reassembly.drain, List.length_map]
  have hemptied := Reassembly.emptied_of_drain hstart hunderway.no_drain drops
  rw [hdrained.reassembly_eq, hcount] at hemptied
  have hbooks : last.empty.sent = last.empty.intake.totals.malformed +
      calls.countP Call.isPush + last.empty.intake.queue.dropped := by
    obtain ⟨harrived, hpackets⟩ := hunderway.accounts
    have hsize : last.empty.intake.queue.size = 0 := congrArg List.length hempty
    omega
  exact ⟨start, calls, drops, hstart, hunderway.no_drain, hdrained.reassembly_eq,
    hdrained.frames_eq.symm, rfl, hemptied, hbooks⟩

end Framecast.Loopback
