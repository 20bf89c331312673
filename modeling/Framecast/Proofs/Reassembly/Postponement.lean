import Framecast.Proofs.Reassembly.Isolation
import Framecast.Proofs.Reassembly.Gathering
import Framecast.Proofs.Reassembly.Timing
import Framecast.Proofs.Reassembly.Working

/-!
# When the timers are looked at does not matter

Two runs with the same pushes look at the timers at different moments, always in time and
never before the last packet of a frame that they retire.  Each is compared with the run of
the pushes alone, frame by frame: either the frame's flights are alike, or the run with
looks has handed over the frame that the other one still holds.  The drain at the end pays
what is owed.
-/

namespace Framecast

open Framecast.Assembly (Event Frame Outcome RetireReason Settings)

namespace Reassembly

/-! ## The two kinds of runs -/

def Call.Routine (drops : Nat) : Call → Prop
  | .push .. => True
  | .sweep found _ => found = drops
  | .drain _ => False

/--
No packet of a frame follows the push after which as many of its packets arrived as it
expects.
-/
def EndsWhenFull : Reassembly → List Call → Prop
  | _, [] => True
  | state, call :: rest =>
      (∀ frameId ∈ call.frameId?, ∀ flight ∈ (state.step call).1.find? frameId,
        flight.assembly.received = flight.assembly.expected → packetsFor frameId rest = []) ∧
        EndsWhenFull (state.step call).1 rest

instance decidableEndsWhenFull : ∀ state calls, Decidable (EndsWhenFull state calls)
  | _, [] => inferInstanceAs (Decidable True)
  | state, call :: rest =>
      -- the ids are finitely many, but only that of the call is to be tried
      @instDecidableAnd _ _ (Option.decidableForallMem call.frameId?)
        (decidableEndsWhenFull (state.step call).1 rest)

def Reply.outcome? : Reply → Option Outcome
  | .outcome found => some found
  | .retired _ => none

def outcomes (steps : List Step) : List Outcome :=
  steps.filterMap fun step => step.reply.outcome?

theorem outcomes_append (steps later : List Step) :
    outcomes (steps ++ later) = outcomes steps ++ outcomes later :=
  List.filterMap_append ..

theorem outcomes_cons (step : Step) (rest : List Step) :
    outcomes (step :: rest) = outcomes [step] ++ outcomes rest :=
  outcomes_append [step] rest

def Signal.withoutReason : Signal → Signal
  | .event (.retired frameId state _ received expected frameSize queuePressure gapHints) =>
      .event (.retired frameId state .shutdown received expected frameSize queuePressure
        gapHints)
  | signal => signal

theorem frames_withoutReason (signals : List Signal) :
    Signal.frames (signals.map Signal.withoutReason) = Signal.frames signals := by
  induction signals with
  | nil => rfl
  | cons signal rest ih =>
      cases signal with
      | event happening => cases happening <;> simpa [Signal.withoutReason] using ih
      | emitted frame => simpa [Signal.withoutReason] using ih
      | drained count => simpa [Signal.withoutReason] using ih

theorem retireSignals_withoutReason (reportsMissing : Bool) (flight : Flight)
    (reason other : RetireReason) (drops : Nat) :
    (retireSignals reportsMissing flight reason drops).map Signal.withoutReason =
      (retireSignals reportsMissing flight other drops).map Signal.withoutReason := by
  rw [retireSignals, retireSignals, List.map_append, List.map_append]
  rfl

/-! ## Turns of a frame -/

section
variable {settings : Settings} {reportsMissing : Bool} {frameId : UInt32} {call : Call}
  {reply : Reply} {signals : List Signal} {after : Option Flight}

theorem Succeeds.turn {origin state : Reassembly} (h : Succeeds origin state) (call : Call)
    (frameId : UInt32) :
    Turn origin.settings origin.reportsMissing frameId call (state.find? frameId)
      (state.step call).2.1 (Signal.about frameId (state.step call).2.2)
      ((state.step call).1.find? frameId) := by
  rw [← h.settings_eq, ← h.reportsMissing_eq]
  exact (h.sound.turn call frameId).2

theorem Succeeds.step {origin state : Reassembly} (h : Succeeds origin state) (call : Call) :
    Succeeds origin (state.step call).1 :=
  h.trans (h.sound.step call)

/-- A call without a packet of a frame does nothing to it when it is not in flight. -/
theorem Turn.of_absent (hother : call.frameId? ≠ some frameId)
    (h : Turn settings reportsMissing frameId call none reply signals after) :
    after = none ∧ signals = [] := by
  cases h with
  | passed => exact ⟨rfl, rfl⟩
  | refused hframe => exact absurd (congrArg some hframe) hother
  | opened hframe => exact absurd (congrArg some hframe) hother

/-- A call without a packet retires a flight just when it dismisses it. -/
theorem Turn.of_present {flight : Flight} (hcall : call.frameId? = none)
    (h : Turn settings reportsMissing frameId call (some flight) reply signals after) :
    (call.dismisses settings flight = none ∧ after = some flight ∧ signals = []) ∨
      ∃ reason, call.dismisses settings flight = some reason ∧ after = none ∧
        signals = retireSignals reportsMissing flight reason call.drops := by
  cases h with
  | passed _ hstays => exact Or.inl ⟨hstays flight rfl, rfl, rfl⟩
  | retired _ hreason => exact Or.inr ⟨_, hreason, rfl, rfl⟩
  | evicted => exact absurd hcall (by simp [Call.frameId?])
  | received => exact absurd hcall (by simp [Call.frameId?])

end

/-! ## The frame that one run still holds -/

/--
How a frame's flights stand in a run with looks at the timers and in the run without
them, and what the former told of the frame ahead of the latter.
-/
inductive Standing (reportsMissing : Bool) (drops : Nat) (frameId : UInt32)
    (coming : List Call) : Option Flight → Option Flight → List Signal → Prop where
  /-- Both are in the same place. -/
  | alike {left right : Option Flight} (halike : Option.Rel Flight.Alike left right)
      (hlast : ∀ flight ∈ right, flight.assembly.isFull = true →
        packetsFor frameId coming = []) :
      Standing reportsMissing drops frameId coming left right []
  /-- One has handed over what the other still holds, and no packet is to come. -/
  | ahead {flight : Flight} (hlast : packetsFor frameId coming = []) :
      Standing reportsMissing drops frameId coming none (some flight)
        (retireSignals reportsMissing flight .completed drops)

theorem packetsFor_cons (frameId : UInt32) (call : Call) (rest : List Call) :
    packetsFor frameId (call :: rest) =
      packetsFor frameId [call] ++ packetsFor frameId rest := by
  rw [← packetsFor_append, List.singleton_append]

section
variable {settings : Settings} {reportsMissing : Bool} {drops : Nat} {frameId : UInt32}
  {coming : List Call} {left right left' right' : Option Flight} {owed : List Signal}

/-- A push in both runs shows the same of the frame in both. -/
theorem Standing.push (huncapped : settings.maxInFlight = none) {packet : Reception.Packet}
    {drops' now : Nat} {reply reply' : Reply} {signals signals' : List Signal}
    (h : Standing reportsMissing drops frameId (.push packet drops' now :: coming) left right
      owed)
    (hleft : Turn settings reportsMissing frameId (.push packet drops' now) left reply signals
      left')
    (hright : Turn settings reportsMissing frameId (.push packet drops' now) right reply'
      signals' right')
    (hends : packet.frameId = frameId → ∀ flight ∈ right', flight.assembly.isFull = true →
      packetsFor frameId coming = []) :
    Standing reportsMissing drops frameId coming left' right' owed ∧
      (packet.frameId = frameId → reply = reply') ∧ owed ++ signals = signals' ++ owed := by
  cases h with
  | alike halike hlast =>
      obtain ⟨hreply, hsignals, hnext⟩ := hleft.agree huncapped halike hright
      refine ⟨.alike hnext ?_, fun hframe => hreply (congrArg some hframe), by simp [hsignals]⟩
      by_cases hframe : packet.frameId = frameId
      · exact hends hframe
      · obtain ⟨rfl, -⟩ := hright.of_not_concerns huncapped (by simp [Call.concerns, hframe])
        intro flight hflight hfull
        have hnone := hlast flight hflight hfull
        rw [packetsFor_cons] at hnone
        exact (List.append_eq_nil_iff.mp hnone).2
  | ahead hlast =>
      -- no packet is to come, so this one is of another frame
      rw [packetsFor_cons, List.append_eq_nil_iff] at hlast
      have hframe : packet.frameId ≠ frameId := by
        intro hframe
        rw [packetsFor_push hframe] at hlast
        exact absurd hlast.1 (by simp)
      have hforeign : (Call.push packet drops' now).concerns frameId = false := by
        simp [Call.concerns, hframe]
      obtain ⟨rfl, rfl⟩ := hleft.of_not_concerns huncapped hforeign
      obtain ⟨rfl, rfl⟩ := hright.of_not_concerns huncapped hforeign
      exact ⟨.ahead hlast.2, fun hown => absurd hown hframe, by simp⟩

/-- A look at the timers in time may hand the frame over early, once it is full. -/
theorem Standing.sweep {now : Nat} {reply : Reply} {signals : List Signal}
    (h : Standing reportsMissing drops frameId coming left right owed)
    (hleft : Turn settings reportsMissing frameId (.sweep drops now) left reply signals left')
    (hintime : ∀ flight reason, left = some flight → flight.due? settings now = some reason →
      reason = .completed ∧ flight.assembly.isFull = true) :
    Standing reportsMissing drops frameId coming left' right (owed ++ signals) := by
  have hother : (Call.sweep drops now).frameId? ≠ some frameId := by simp [Call.frameId?]
  cases h with
  | ahead hlast =>
      obtain ⟨rfl, rfl⟩ := hleft.of_absent hother
      rw [List.append_nil]
      exact .ahead hlast
  | alike halike hlast =>
      cases halike with
      | none =>
          obtain ⟨rfl, rfl⟩ := hleft.of_absent hother
          exact .alike .none hlast
      | @some flight other halike =>
          rcases hleft.of_present rfl with ⟨-, rfl, rfl⟩ | ⟨reason, hdue, rfl, rfl⟩
          · exact .alike (.some halike) hlast
          · obtain ⟨rfl, hfull⟩ := hintime flight reason rfl hdue
            rw [List.nil_append, halike.retireSignals_eq]
            -- the flight of the other run is as full, so no packet is to come
            refine .ahead (hlast other rfl ?_)
            obtain ⟨_, rfl, hstorage⟩ := halike
            rw [← hstorage.isFull_eq]
            exact hfull

/-- A drain in both runs pays what is owed. -/
theorem Standing.drain {reply reply' : Reply} {signals signals' : List Signal}
    (h : Standing reportsMissing drops frameId coming left right owed)
    (hleft : Turn settings reportsMissing frameId (.drain drops) left reply signals left')
    (hright : Turn settings reportsMissing frameId (.drain drops) right reply' signals'
      right') :
    (owed ++ signals).map Signal.withoutReason = signals'.map Signal.withoutReason := by
  have hother : (Call.drain drops).frameId? ≠ some frameId := by simp [Call.frameId?]
  have hleaves : ∀ {flight : Flight} {reply : Reply} {signals : List Signal}
      {after : Option Flight},
      Turn settings reportsMissing frameId (.drain drops) (some flight) reply signals after →
        signals = retireSignals reportsMissing flight .shutdown drops := by
    intro flight reply signals after hturn
    rcases hturn.of_present rfl with ⟨hnone, -⟩ | ⟨reason, hreason, -, rfl⟩
    · exact absurd hnone (by simp [Call.dismisses])
    · rw [← Option.some.inj hreason]
      rfl
  cases h with
  | ahead =>
      obtain ⟨-, rfl⟩ := hleft.of_absent hother
      rw [List.append_nil, hleaves hright]
      exact retireSignals_withoutReason ..
  | alike halike =>
      rw [List.nil_append]
      cases halike with
      | none =>
          obtain ⟨-, rfl⟩ := hleft.of_absent hother
          obtain ⟨-, rfl⟩ := hright.of_absent hother
          rfl
      | some halike => rw [hleaves hleft, hleaves hright, halike.retireSignals_eq]

end

/-! ## Along a run -/

/-- The run with looks and the run without them, as far as one frame is concerned. -/
structure Abreast (origin : Reassembly) (drops : Nat) (frameId : UInt32) (coming : List Call)
    (left right : Reassembly) (owed : List Signal) : Prop where
  left_succeeds : Succeeds origin left
  right_succeeds : Succeeds origin right
  standing : Standing origin.reportsMissing drops frameId coming (left.find? frameId)
    (right.find? frameId) owed

theorem EndsWhenFull.next {state : Reassembly} {packet : Reception.Packet} {drops now : Nat}
    {rest : List Call} (h : EndsWhenFull state (.push packet drops now :: rest))
    {frameId : UInt32} (hframe : packet.frameId = frameId) :
    ∀ flight ∈ (state.step (.push packet drops now)).1.find? frameId,
      flight.assembly.isFull = true → packetsFor frameId rest = [] := by
  intro flight hflight hfull
  exact h.1 frameId (congrArg some hframe) flight hflight (beq_iff_eq.mp hfull)

section
variable {origin left right : Reassembly} (huncapped : origin.settings.maxInFlight = none)
  {drops : Nat} {frameId : UInt32} {owed : List Signal}

include huncapped in
theorem Abreast.push {coming : List Call} {packet : Reception.Packet} {drops' now : Nat}
    (h : Abreast origin drops frameId (.push packet drops' now :: coming) left right owed)
    (hends : EndsWhenFull right (.push packet drops' now :: coming)) :
    let call := Call.push packet drops' now
    Abreast origin drops frameId coming (left.step call).1 (right.step call).1 owed ∧
      (packet.frameId = frameId → (left.step call).2.1 = (right.step call).2.1) ∧
      owed ++ Signal.about frameId (left.step call).2.2 =
        Signal.about frameId (right.step call).2.2 ++ owed := by
  intro call
  obtain ⟨hstanding, hreply, hsignals⟩ := h.standing.push huncapped
    (h.left_succeeds.turn call frameId) (h.right_succeeds.turn call frameId) hends.next
  exact ⟨⟨h.left_succeeds.step call, h.right_succeeds.step call, hstanding⟩, hreply, hsignals⟩

theorem Abreast.sweep {coming rest : List Call} {now : Nat}
    (h : Abreast origin drops frameId coming left right owed)
    (hpatient : Patient frameId left (.sweep drops now :: rest)) :
    Abreast origin drops frameId coming (left.step (.sweep drops now)).1 right
      (owed ++ Signal.about frameId (left.step (.sweep drops now)).2.2) where
  left_succeeds := h.left_succeeds.step _
  right_succeeds := h.right_succeeds
  standing := by
    refine h.standing.sweep (h.left_succeeds.turn _ frameId) ?_
    intro flight reason hfound hdue
    rw [← h.left_succeeds.settings_eq] at hdue
    exact hpatient.full_of_due? hfound hdue

include huncapped in
/-- What a run with looks tells of a frame, it tells on time or ahead of time. -/
theorem Abreast.run {calls : List Call} (hroutine : ∀ call ∈ calls, call.Routine drops)
    (h : Abreast origin drops frameId (calls.filter Call.isPush) left right owed)
    (hends : EndsWhenFull right (calls.filter Call.isPush))
    (hpatient : Patient frameId left calls) :
    ∃ owed', Abreast origin drops frameId [] (left.run calls).1
        (right.run (calls.filter Call.isPush)).1 owed' ∧
      owed ++ Signal.about frameId ((left.trail calls).flatMap Step.signals) =
        Signal.about frameId
          ((right.trail (calls.filter Call.isPush)).flatMap Step.signals) ++ owed' := by
  induction calls generalizing left right owed with
  | nil => exact ⟨owed, h, by simp⟩
  | cons call rest ih =>
      have hrest : ∀ call ∈ rest, call.Routine drops :=
        fun later hmem => hroutine later (List.mem_cons_of_mem call hmem)
      have hcall := hroutine call List.mem_cons_self
      cases call with
      | push packet drops' now =>
          rw [List.filter_cons_of_pos rfl] at h hends ⊢
          obtain ⟨hnext, -, hsignals⟩ := h.push huncapped hends
          obtain ⟨owed', hlast, hlater⟩ := ih hrest hnext hends.2 hpatient.2
          refine ⟨owed', hlast, ?_⟩
          rw [trail_cons, trail_cons, List.flatMap_cons, List.flatMap_cons,
            Signal.about_append, Signal.about_append, ← List.append_assoc, signals_perform,
            signals_perform, hsignals, List.append_assoc, hlater, List.append_assoc]
      | sweep found now =>
          obtain rfl : found = drops := hcall
          rw [List.filter_cons_of_neg (by simp [Call.isPush])] at h hends ⊢
          obtain ⟨owed', hlast, hlater⟩ := ih hrest (h.sweep hpatient) hends hpatient.2
          refine ⟨owed', hlast, ?_⟩
          rw [trail_cons, List.flatMap_cons, Signal.about_append, ← List.append_assoc,
            signals_perform, hlater]
      | drain => exact hcall.elim

include huncapped in
/-- Whenever a packet comes, both runs answer the same. -/
theorem outcomes_eq_of_abreast {calls : List Call}
    (hroutine : ∀ call ∈ calls, call.Routine drops)
    (h : ∀ frameId, ∃ owed, Abreast origin drops frameId (calls.filter Call.isPush) left right
      owed)
    (hends : EndsWhenFull right (calls.filter Call.isPush))
    (hpatient : ∀ frameId, Patient frameId left calls) :
    outcomes (left.trail calls) = outcomes (right.trail (calls.filter Call.isPush)) := by
  induction calls generalizing left right with
  | nil => rfl
  | cons call rest ih =>
      have hrest : ∀ call ∈ rest, call.Routine drops :=
        fun later hmem => hroutine later (List.mem_cons_of_mem call hmem)
      have hlater := fun frameId => (hpatient frameId).2
      have hcall := hroutine call List.mem_cons_self
      cases call with
      | push packet drops' now =>
          rw [List.filter_cons_of_pos rfl] at h hends ⊢
          obtain ⟨owed, hown⟩ := h packet.frameId
          have hreply := (hown.push huncapped hends).2.1 rfl
          have hnext := ih hrest
            (fun frameId => (h frameId).imp fun _ hframe => (hframe.push huncapped hends).1)
            hends.2 hlater
          have hone : outcomes [left.perform (.push packet drops' now)] =
              outcomes [right.perform (.push packet drops' now)] :=
            congrArg (fun reply => [reply].filterMap Reply.outcome?) hreply
          rw [trail_cons, trail_cons, outcomes_cons, hone, hnext, ← outcomes_cons]
      | sweep found now =>
          obtain rfl : found = drops := hcall
          rw [List.filter_cons_of_neg (by simp [Call.isPush])] at h hends ⊢
          exact ih hrest (fun frameId => (h frameId).elim fun owed hframe =>
            ⟨_, hframe.sweep (hpatient frameId)⟩) hends hlater
      | drain => exact hcall.elim

end

/-! ## Two ways to look at the timers -/

/-- Calls that make the given pushes and look at the timers in time between them. -/
structure Interleaved (start : Reassembly) (drops : Nat) (pushes calls : List Call) :
    Prop where
  routine : ∀ call ∈ calls, call.Routine drops
  pushes_eq : calls.filter Call.isPush = pushes
  patient : ∀ frameId, Patient frameId start calls

theorem Sound.abreast {start : Reassembly} (h : start.Sound)
    (hempty : start.flights = []) (drops : Nat) (frameId : UInt32) (coming : List Call) :
    Abreast start drops frameId coming start start [] where
  left_succeeds := h.refl_succeeds
  right_succeeds := h.refl_succeeds
  standing := by
    have hnone : start.find? frameId = none := by simp [find?, hempty]
    rw [hnone]
    exact .alike .none (by simp)

section
variable {start : Reassembly} (hsound : start.Sound) (hempty : start.flights = [])
  (huncapped : start.settings.maxInFlight = none) {drops : Nat} {pushes calls : List Call}
  (hends : EndsWhenFull start pushes) (h : Interleaved start drops pushes calls)
include hsound hempty huncapped hends h

/-- Up to the reasons of retirements, a frame is told of as without looks at the timers. -/
theorem Interleaved.about_eq (frameId : UInt32) :
    (Signal.about frameId ((start.trail (calls ++ [.drain drops])).flatMap
        Step.signals)).map Signal.withoutReason =
      (Signal.about frameId ((start.trail (pushes ++ [.drain drops])).flatMap
        Step.signals)).map Signal.withoutReason := by
  obtain ⟨hroutine, rfl, hpatient⟩ := h
  obtain ⟨owed, hlast, hsignals⟩ := (hsound.abreast hempty drops frameId _).run huncapped
    hroutine hends (hpatient frameId)
  have hpaid := hlast.standing.drain (hlast.left_succeeds.turn _ frameId)
    (hlast.right_succeeds.turn _ frameId)
  rw [List.nil_append] at hsignals
  rw [trail_append, trail_append, List.flatMap_append, List.flatMap_append,
    Signal.about_append, Signal.about_append, hsignals, List.append_assoc, List.map_append,
    List.map_append]
  simpa [trail_cons, signals_perform] using hpaid

theorem Interleaved.outcomes_eq :
    outcomes (start.trail (calls ++ [.drain drops])) = outcomes (start.trail pushes) := by
  obtain ⟨hroutine, rfl, hpatient⟩ := h
  rw [trail_append, outcomes_append, outcomes_eq_of_abreast huncapped hroutine
    (fun frameId => ⟨[], hsound.abreast hempty drops frameId _⟩) hends hpatient]
  exact List.append_nil _

end

/-! ## Reasons -/

theorem mem_leavers_about {frameId : UInt32} {reason : RetireReason} {signals : List Signal} :
    (frameId, reason) ∈ Signal.leavers (Signal.about frameId signals) ↔
      (frameId, reason) ∈ Signal.leavers signals := by
  have hretired : Signal.retirements (Signal.about frameId signals) =
      (Signal.retirements signals).filter fun told => told.1 = frameId := by
    rw [Signal.retirements, Signal.events_about, Observation.retirements,
      Signal.retirements, Observation.retirements, List.filterMap_filter, List.filter_filterMap]
    congr 1
    funext happening
    by_cases hframe : happening.frameId = frameId <;>
      cases happening <;> simp_all [Event.frameId, Option.filter]
  simp [Signal.leavers, hretired]

/-- Without a cap, a frame retires for the reason for which a call dismisses its flight. -/
theorem Turn.dismisses_of_leaver {settings : Settings} {reportsMissing : Bool}
    {frameId : UInt32} {call : Call} {before after : Option Flight} {reply : Reply}
    {signals : List Signal} (huncapped : settings.maxInFlight = none)
    (h : Turn settings reportsMissing frameId call before reply signals after)
    {reason : RetireReason} (hmem : (frameId, reason) ∈ Signal.leavers signals) :
    ∃ flight, before = some flight ∧ call.dismisses settings flight = some reason := by
  cases h with
  | passed => exact absurd hmem List.not_mem_nil
  | retired _ hreason =>
      rw [Signal.leavers, retirements_retireSignals, List.map_singleton,
        List.mem_singleton] at hmem
      refine ⟨_, rfl, ?_⟩
      rw [hreason, (Prod.mk.inj hmem).2]
      rfl
  | evicted _ hcapped => exact absurd huncapped hcapped
  | refused _ hcapped => exact absurd huncapped hcapped
  | @opened packet drops now _ _ outcome => cases outcome <;> exact absurd hmem List.not_mem_nil
  | @received packet drops now _ outcome => cases outcome <;> exact absurd hmem List.not_mem_nil

/-- Looks at the timers in time retire full frames only, and a drain retires the others. -/
theorem Succeeds.reason_of_leaver {origin state : Reassembly} (h : Succeeds origin state)
    (huncapped : origin.settings.maxInFlight = none) {frameId : UInt32} {calls : List Call}
    (hpatient : Patient frameId state calls) {reason : RetireReason}
    (hmem : (frameId, reason) ∈ Signal.leavers ((state.trail calls).flatMap Step.signals)) :
    reason = .completed ∨ reason = .shutdown := by
  induction calls generalizing state with
  | nil => exact absurd hmem List.not_mem_nil
  | cons call rest ih =>
      rw [trail_cons, List.flatMap_cons, Signal.leavers, Signal.retirements_append,
        List.map_append] at hmem
      rcases List.mem_append.mp hmem with hone | hlater
      · obtain ⟨flight, hfound, hreason⟩ := (h.turn call frameId).dismisses_of_leaver huncapped
          (mem_leavers_about.mpr hone)
        cases call with
        | push => exact absurd hreason (by simp [Call.dismisses])
        | sweep drops now =>
            rw [← h.settings_eq] at hreason
            exact Or.inl (hpatient.full_of_due? hfound hreason).1
        | drain => exact Or.inr (Option.some.inj hreason).symm
      · exact ih (h.step call) hpatient.2 hlater

/-! ## Shutdowns -/

theorem isPush_earlyCalls (now : Nat) (early : List (Reception.Packet × Nat)) :
    ∀ call ∈ earlyCalls now early, call.isPush = true := by
  induction early generalizing now with
  | nil => simp [earlyCalls]
  | cons entry rest ih =>
      intro call hmem
      rcases List.mem_cons.mp hmem with rfl | hrest
      · rfl
      · exact ih (now + 1) call hrest

theorem filter_isPush_emptying (sweeping : Sweeping) (lingering lingering' : Bool)
    (drops now : Nat) (packets : List Reception.Packet) :
    (Worker.emptying sweeping lingering drops now packets).filter Call.isPush =
      Worker.emptying .never lingering' drops now packets := by
  induction packets generalizing now with
  | nil =>
      rw [Worker.emptying, Worker.emptying]
      split <;> rfl
  | cons packet rest ih =>
      rw [Worker.emptying, Worker.emptying, List.cons_append, List.filter_cons_of_pos rfl,
        List.filter_append, ih]
      cases sweeping <;> rfl

theorem routine_emptying (sweeping : Sweeping) (lingering : Bool) (drops now : Nat)
    (packets : List Reception.Packet) :
    ∀ call ∈ Worker.emptying sweeping lingering drops now packets, call.Routine drops := by
  induction packets generalizing now with
  | nil =>
      rw [Worker.emptying]
      split <;> simp [Call.Routine]
  | cons packet rest ih =>
      rw [Worker.emptying]
      cases sweeping <;> simpa [Call.Routine] using ih (now + 1)

/-- What a worker does with a queue is one way to look at the timers between the pushes. -/
theorem interleaved_shutdownCalls (start : Reassembly) (early : List (Reception.Packet × Nat))
    (packets : List Reception.Packet) (sweeping : Sweeping) (lingering lingering' : Bool)
    (hpatient : ∀ frameId,
      Patient frameId start (start.shutdownCalls early packets sweeping lingering)) :
    Interleaved start (start.shutdownQueue packets).dropped
      (start.shutdownCalls early packets .never lingering')
      (start.shutdownCalls early packets sweeping lingering) where
  routine := by
    intro call hmem
    rcases List.mem_append.mp hmem with hearly | hlater
    · have hpush := isPush_earlyCalls 0 early call hearly
      cases call with
      | push => trivial
      | sweep => exact absurd hpush (by simp [Call.isPush])
      | drain => exact absurd hpush (by simp [Call.isPush])
    · exact routine_emptying _ _ _ _ _ call hlater
  pushes_eq := by
    rw [shutdownCalls, shutdownCalls, List.filter_append, filter_isPush_emptying,
      List.filter_eq_self.mpr (isPush_earlyCalls 0 early)]
  patient := hpatient

/-! ## Results -/

/-- Lists with the same frames under each id differ only in their order. -/
theorem perm_of_filter_id_eq {frames frames' : List Frame}
    (h : ∀ frameId, frames.filter (fun frame => frame.id = frameId) =
      frames'.filter fun frame => frame.id = frameId) : frames.Perm frames' := by
  rw [List.perm_iff_count]
  intro frame
  have hcount := congrArg (List.count frame) (h frame.id)
  rwa [List.count_filter (by simp), List.count_filter (by simp)] at hcount

/-- Signals that are the same for each frame but for the reasons hand over the same frames. -/
theorem frames_perm_of_about {signals signals' : List Signal}
    (h : ∀ frameId, (Signal.about frameId signals).map Signal.withoutReason =
      (Signal.about frameId signals').map Signal.withoutReason) :
    (Signal.frames signals).Perm (Signal.frames signals') := by
  apply perm_of_filter_id_eq
  intro frameId
  rw [← Signal.frames_about, ← Signal.frames_about, ← frames_withoutReason, h,
    frames_withoutReason]

/--
Without a cap, and when no packet of a frame comes after those that make it full, it does
not matter when the timers are looked at, as long as none has expired: every packet fares
the same and the same frames are handed over; each frame is told of in the same order, but
for the reason of its retirement, which is that it was full or that the run ended.  In
particular a worker that looks at the timers after every packet and one that never does
hand over the same frames.
-/
theorem looks_do_not_change_frames {settings : Settings} {reportsMissing : Bool}
    {start : Reassembly} (hstart : create settings reportsMissing = .ok start)
    (huncapped : settings.maxInFlight = none) :
    (∀ drops pushes calls calls', EndsWhenFull start pushes →
      Interleaved start drops pushes calls → Interleaved start drops pushes calls' →
        let steps := start.trail (calls ++ [.drain drops])
        let steps' := start.trail (calls' ++ [.drain drops])
        outcomes steps = outcomes steps' ∧
          (Signal.frames (steps.flatMap Step.signals)).Perm
            (Signal.frames (steps'.flatMap Step.signals)) ∧
          ∀ frameId,
            (Signal.about frameId (steps.flatMap Step.signals)).map Signal.withoutReason =
              (Signal.about frameId (steps'.flatMap Step.signals)).map
                Signal.withoutReason ∧
            ∀ reason, (frameId, reason) ∈ Signal.leavers (steps.flatMap Step.signals) →
              reason = .completed ∨ reason = .shutdown) ∧
      ∀ early packets lingering lingering',
        EndsWhenFull start (start.shutdownCalls early packets .never lingering') →
        (∀ frameId, Patient frameId start
          (start.shutdownCalls early packets .every lingering)) →
        (Signal.frames (start.shutDown early packets .every lingering).signals).Perm
          (Signal.frames (start.shutDown early packets .never lingering').signals) := by
  have hsound := sound_of_create hstart
  have hempty := flights_of_create hstart
  have hcap : start.settings.maxInFlight = none := by
    rw [settings_of_create hstart, huncapped]
  constructor
  · intro drops pushes calls calls' hends h h' steps steps'
    have habout : ∀ frameId,
        (Signal.about frameId (steps.flatMap Step.signals)).map Signal.withoutReason =
          (Signal.about frameId (steps'.flatMap Step.signals)).map Signal.withoutReason := by
      intro frameId
      exact (h.about_eq hsound hempty hcap hends frameId).trans
        (h'.about_eq hsound hempty hcap hends frameId).symm
    refine ⟨?_, frames_perm_of_about habout, fun frameId => ⟨habout frameId, ?_⟩⟩
    · exact (h.outcomes_eq hsound hempty hcap hends).trans
        (h'.outcomes_eq hsound hempty hcap hends).symm
    · intro reason hmem
      exact hsound.refl_succeeds.reason_of_leaver hcap
        ((h.patient frameId).append_drain drops) hmem
  · intro early packets lingering lingering' hends hpatient
    have h := interleaved_shutdownCalls start early packets .every lingering lingering' hpatient
    rw [hsound.signals_shutDown, hsound.signals_shutDown]
    apply frames_perm_of_about
    intro frameId
    exact h.about_eq hsound hempty hcap hends frameId

/-- A frame that a look hands over before the others, and the same frames in their order. -/
theorem looks_do_not_change_frames_reordered :
    let settings := { Settings.default with maxFrameSize := 16, stride := 4, maxPayload := 4 }
    let first : Reception.Packet := ⟨⟨7, 0, 2, 1⟩, [10], false, rfl, by decide⟩
    let single : Reception.Packet := ⟨⟨8, 0, 1, 1⟩, [20], false, rfl, by decide⟩
    let second : Reception.Packet := ⟨⟨7, 1, 2, 1⟩, [30], false, rfl, by decide⟩
    let pushes : List Call := [.push first 0 1, .push single 1 2, .push second 1 4]
    let calls : List Call :=
      [.push first 0 1, .push single 1 2, .sweep 1 3, .push second 1 4]
    let calls' : List Call :=
      [.push first 0 1, .push single 1 2, .push second 1 4, .sweep 1 5]
    let start := initial settings false
    let frames := Signal.frames ((start.trail (calls ++ [.drain 1])).flatMap Step.signals)
    let frames' := Signal.frames ((start.trail (calls' ++ [.drain 1])).flatMap Step.signals)
    create settings false = .ok start ∧ settings.maxInFlight = none ∧
      EndsWhenFull start pushes ∧ Interleaved start 1 pushes calls ∧
      Interleaved start 1 pushes calls' ∧ frames.map Frame.id = [8, 7] ∧
      frames'.map Frame.id = [7, 8] ∧ frames.Perm frames' ∧
      (Signal.frames (start.shutDown [] [first, single, second] .every true).signals).Perm
        (Signal.frames (start.shutDown [] [first, single, second] .never true).signals) := by
  intro settings first single second pushes calls calls' start frames frames'
  have hstart : create settings false = .ok start := rfl
  have hsound := sound_of_create hstart
  have hends : EndsWhenFull start pushes := by decide
  have h : Interleaved start 1 pushes calls :=
    ⟨by simp [calls, Call.Routine], by decide,
      fun frameId => hsound.patient_of_looksAt_le frameId (by decide)⟩
  have h' : Interleaved start 1 pushes calls' :=
    ⟨by simp [calls', Call.Routine], by decide,
      fun frameId => hsound.patient_of_looksAt_le frameId (by decide)⟩
  obtain ⟨hruns, hworkers⟩ := looks_do_not_change_frames hstart rfl
  refine ⟨hstart, rfl, hends, h, h', by decide, by decide, ?_, ?_⟩
  · exact (hruns 1 pushes calls calls' hends h h').2.1
  · apply hworkers [] [first, single, second] true true (by decide)
    intro frameId
    exact hsound.patient_of_looksAt_le frameId (by decide)

end Reassembly

end Framecast
