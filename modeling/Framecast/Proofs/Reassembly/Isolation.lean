import Framecast.Proofs.Reassembly.Trail

/-!
# Frames do not influence each other

Without a cap on the frames in flight, what happens to one frame depends on its
own packets and on the looks at the timers alone.  Two runs, one with all packets
and one with those of the frame only, differ in their idle buffers and in
everything else in flight; they are compared by the frame's flights, which stay
alike although they may live in buffers with different pasts.
-/

namespace Framecast

open Framecast.Assembly (Event Frame Outcome Settings)

namespace Reassembly

/-- Whether a call stays when the packets of other frames are left out. -/
def Call.concerns (frameId : UInt32) : Call → Bool
  | .push packet _ _ => packet.frameId = frameId
  | .sweep .. => true
  | .drain _ => true

structure Sight where
  outcome? : Option Outcome
  events : List Event
  frames : List Frame
  inFlight : Bool
deriving Repr, DecidableEq

def Step.sight (frameId : UInt32) (step : Step) : Sight where
  outcome? := step.outcome? frameId
  events := eventsOf frameId [step]
  frames := framesOf frameId [step]
  inFlight := step.after.isInFlight frameId

section
variable {settings : Settings} {reportsMissing : Bool} {frameId : UInt32} {call : Call}

theorem Flight.Alike.dismisses_eq {left right : Flight} (h : left.Alike right)
    (settings : Settings) (call : Call) :
    call.dismisses settings left = call.dismisses settings right := by
  cases call with
  | push => rfl
  | sweep drops now => exact h.due?_eq settings now
  | drain => rfl

/-- Without a cap, a packet of another frame passes a frame by. -/
theorem Turn.of_not_concerns (huncapped : settings.maxInFlight = none)
    (hforeign : call.concerns frameId = false) {before after : Option Flight}
    {reply : Reply} {signals : List Signal}
    (h : Turn settings reportsMissing frameId call before reply signals after) :
    after = before ∧ signals = [] := by
  cases h with
  | passed => exact ⟨rfl, rfl⟩
  | @retired call flight reason reply hother hreason =>
      cases call with
      | push => exact absurd hreason (by simp [Call.dismisses])
      | sweep => exact absurd hforeign (by simp [Call.concerns])
      | drain => exact absurd hforeign (by simp [Call.concerns])
  | evicted _ hcapped => exact absurd huncapped hcapped
  | refused _ hcapped => exact absurd huncapped hcapped
  | opened hframe => exact absurd hforeign (by simp [Call.concerns, hframe])
  | received hframe => exact absurd hforeign (by simp [Call.concerns, hframe])

/-- Without a cap, a frame that is not in flight takes only one turn on a call. -/
theorem Turn.agree_absent (huncapped : settings.maxInFlight = none)
    {after after' : Option Flight} {reply reply' : Reply} {signals signals' : List Signal}
    (h : Turn settings reportsMissing frameId call none reply signals after)
    (h' : Turn settings reportsMissing frameId call none reply' signals' after') :
    (call.frameId? = some frameId → reply = reply') ∧ signals = signals' ∧
      Option.Rel Flight.Alike after after' := by
  cases h with
  | passed hother =>
      cases h' with
      | passed => exact ⟨fun hown => absurd hown hother, rfl, .none⟩
      | refused _ hcapped => exact absurd huncapped hcapped
      | opened hframe => exact absurd (congrArg some hframe) hother
  | refused _ hcapped => exact absurd huncapped hcapped
  | @opened packet drops now _ _ _ hframe hready hflight houtcome =>
      cases h' with
      | passed hother => exact absurd (congrArg some hframe) hother
      | refused _ hcapped => exact absurd huncapped hcapped
      | opened _ hready' hflight' houtcome' =>
          subst hflight hflight'
          -- whatever buffers the two flights were given
          have halike := Flight.opened_alike hready hready' packet.header drops now
          subst houtcome houtcome'
          rw [halike.verdict_eq]
          exact ⟨fun _ => rfl, rfl, .some (halike.receive _ _)⟩

/-- Without a cap, flights that are alike take turns that show the same. -/
theorem Turn.agree_present (huncapped : settings.maxInFlight = none)
    {flight flight' : Flight} (halike : flight.Alike flight') {after after' : Option Flight}
    {reply reply' : Reply} {signals signals' : List Signal}
    (h : Turn settings reportsMissing frameId call (some flight) reply signals after)
    (h' : Turn settings reportsMissing frameId call (some flight') reply' signals' after') :
    (call.frameId? = some frameId → reply = reply') ∧ signals = signals' ∧
      Option.Rel Flight.Alike after after' := by
  cases h with
  | passed hother hstays =>
      cases h' with
      | passed => exact ⟨fun hown => absurd hown hother, rfl, .some halike⟩
      | retired _ hreason =>
          have hnone := hstays _ rfl
          rw [halike.dismisses_eq, hreason] at hnone
          exact absurd hnone (by simp)
      | evicted _ hcapped => exact absurd huncapped hcapped
      | received hframe => exact absurd (congrArg some hframe) hother
  | retired hother hreason =>
      cases h' with
      | passed _ hstays =>
          have hnone := hstays _ rfl
          rw [← halike.dismisses_eq, hreason] at hnone
          exact absurd hnone (by simp)
      | retired _ hreason' =>
          rw [halike.dismisses_eq, hreason'] at hreason
          rw [Option.some.inj hreason, halike.retireSignals_eq]
          exact ⟨fun hown => absurd hown hother, rfl, .none⟩
      | evicted _ hcapped => exact absurd huncapped hcapped
      | received hframe => exact absurd (congrArg some hframe) hother
  | evicted _ hcapped => exact absurd huncapped hcapped
  | received hframe houtcome =>
      cases h' with
      | passed hother => exact absurd (congrArg some hframe) hother
      | retired hother => exact absurd (congrArg some hframe) hother
      | evicted _ hcapped => exact absurd huncapped hcapped
      | received _ houtcome' =>
          subst houtcome houtcome'
          rw [halike.verdict_eq, halike.expected_eq]
          exact ⟨fun _ => rfl, rfl, .some (halike.receive _ _)⟩

theorem Turn.agree (huncapped : settings.maxInFlight = none)
    {before before' after after' : Option Flight} {reply reply' : Reply}
    {signals signals' : List Signal} (hsame : Option.Rel Flight.Alike before before')
    (h : Turn settings reportsMissing frameId call before reply signals after)
    (h' : Turn settings reportsMissing frameId call before' reply' signals' after') :
    (call.frameId? = some frameId → reply = reply') ∧ signals = signals' ∧
      Option.Rel Flight.Alike after after' := by
  cases hsame with
  | none => exact h.agree_absent huncapped h'
  | some halike => exact h.agree_present huncapped halike h'

end

/-- Two states in which a frame fares alike, whatever else is in flight. -/
structure SameFor (frameId : UInt32) (left right : Reassembly) : Prop where
  left_sound : left.Sound
  right_sound : right.Sound
  settings_eq : left.settings = right.settings
  reportsMissing_eq : left.reportsMissing = right.reportsMissing
  uncapped : right.settings.maxInFlight = none
  flights_alike : Option.Rel Flight.Alike (left.find? frameId) (right.find? frameId)

theorem Sound.sameFor_refl {reassembly : Reassembly} (h : reassembly.Sound)
    (huncapped : reassembly.settings.maxInFlight = none) (frameId : UInt32) :
    SameFor frameId reassembly reassembly where
  left_sound := h
  right_sound := h
  settings_eq := rfl
  reportsMissing_eq := rfl
  uncapped := huncapped
  flights_alike := by
    cases reassembly.find? frameId with
    | none => exact .none
    | some flight => exact .some ⟨flight.assembly, rfl, .refl _⟩

section
variable {frameId : UInt32} {left right : Reassembly} (h : SameFor frameId left right)
include h

theorem SameFor.isInFlight_eq : left.isInFlight frameId = right.isInFlight frameId := by
  rw [isInFlight_eq_isSome, isInFlight_eq_isSome]
  have halike := h.flights_alike
  revert halike
  cases left.find? frameId <;> cases right.find? frameId <;> rintro ⟨⟩ <;> rfl

theorem SameFor.turn_left (call : Call) :
    Turn right.settings right.reportsMissing frameId call (left.find? frameId)
      (left.step call).2.1 (Signal.about frameId (left.step call).2.2)
      ((left.step call).1.find? frameId) := by
  rw [← h.settings_eq, ← h.reportsMissing_eq]
  exact (h.left_sound.turn call frameId).2

/-- A call that one of two runs leaves out goes unnoticed by the frame. -/
theorem SameFor.skip {call : Call} (hforeign : call.concerns frameId = false) :
    SameFor frameId (left.step call).1 right ∧
      Signal.about frameId (left.step call).2.2 = [] := by
  have hstep := h.left_sound.step call
  obtain ⟨hsame, hsilent⟩ := (h.turn_left call).of_not_concerns h.uncapped hforeign
  refine ⟨?_, hsilent⟩
  exact {
    left_sound := hstep.sound
    right_sound := h.right_sound
    settings_eq := hstep.settings_eq.trans h.settings_eq
    reportsMissing_eq := hstep.reportsMissing_eq.trans h.reportsMissing_eq
    uncapped := h.uncapped
    flights_alike := hsame ▸ h.flights_alike }

/-- A call in both runs shows the same of the frame in both. -/
theorem SameFor.step (call : Call) :
    SameFor frameId (left.step call).1 (right.step call).1 ∧
      (call.frameId? = some frameId → (left.step call).2.1 = (right.step call).2.1) ∧
      Signal.about frameId (left.step call).2.2 =
        Signal.about frameId (right.step call).2.2 := by
  have hleft := h.left_sound.step call
  have hright := h.right_sound.step call
  obtain ⟨hreply, hsignals, halike⟩ := (h.turn_left call).agree h.uncapped h.flights_alike
    (h.right_sound.turn call frameId).2
  refine ⟨?_, hreply, hsignals⟩
  exact {
    left_sound := hleft.sound
    right_sound := hright.sound
    settings_eq := by rw [hleft.settings_eq, hright.settings_eq, h.settings_eq]
    reportsMissing_eq := by
      rw [hleft.reportsMissing_eq, hright.reportsMissing_eq, h.reportsMissing_eq]
    uncapped := by rw [hright.settings_eq, h.uncapped]
    flights_alike := halike }

theorem SameFor.sight_eq (call : Call) :
    (left.perform call).sight frameId = (right.perform call).sight frameId := by
  obtain ⟨hnext, hreply, hsignals⟩ := h.step call
  have houtcome : (left.perform call).outcome? frameId =
      (right.perform call).outcome? frameId := by
    by_cases hown : call.frameId? = some frameId
    · simp only [Step.outcome?, perform, hreply hown]
    · rw [Step.outcome?_of_other hown, Step.outcome?_of_other hown]
  have hevents : eventsOf frameId [left.perform call] =
      eventsOf frameId [right.perform call] := by
    rw [eventsOf_cons, eventsOf_cons]
    exact congrArg (Signal.events · ++ _) hsignals
  have hframes : framesOf frameId [left.perform call] =
      framesOf frameId [right.perform call] := by
    rw [framesOf_cons, framesOf_cons]
    exact congrArg (Signal.frames · ++ _) hsignals
  have hinFlight : (left.perform call).after.isInFlight frameId =
      (right.perform call).after.isInFlight frameId := hnext.isInFlight_eq
  simp only [Step.sight, houtcome, hevents, hframes, hinFlight]

end

/-- What two runs show of a frame when one of them leaves out the other frames' packets. -/
theorem SameFor.sights {frameId : UInt32} {left right : Reassembly}
    (h : SameFor frameId left right) (calls : List Call) :
    ((left.trail calls).filter (·.call.concerns frameId)).map (Step.sight frameId) =
        (right.trail (calls.filter (Call.concerns frameId))).map (Step.sight frameId) ∧
      ∀ step ∈ left.trail calls, step.call.concerns frameId = false →
        Signal.about frameId step.signals = [] := by
  induction calls generalizing left right with
  | nil => exact ⟨rfl, by simp⟩
  | cons call rest ih =>
      rw [trail_cons]
      cases hconcerns : call.concerns frameId with
      | false =>
          have hgone : (left.perform call).call.concerns frameId = false := hconcerns
          obtain ⟨hnext, hsilent⟩ := h.skip hconcerns
          obtain ⟨hsights, hquiet⟩ := ih hnext
          constructor
          · rw [List.filter_cons_of_neg (by simp [hgone]),
              List.filter_cons_of_neg (by simp [hconcerns])]
            exact hsights
          · intro step hmem hforeign
            rcases List.mem_cons.mp hmem with rfl | hrest
            · exact hsilent
            · exact hquiet step hrest hforeign
      | true =>
          have hkept : (left.perform call).call.concerns frameId = true := hconcerns
          obtain ⟨hsights, hquiet⟩ := ih (h.step call).1
          constructor
          · rw [List.filter_cons_of_pos (by exact hkept), List.filter_cons_of_pos hconcerns,
              trail_cons, List.map_cons, List.map_cons, hsights, h.sight_eq call]
          · intro step hmem hforeign
            rcases List.mem_cons.mp hmem with rfl | hrest
            · rw [hkept] at hforeign
              exact absurd hforeign (by decide)
            · exact hquiet step hrest hforeign

/-! ## What a run shows of a frame -/

theorem outcomesOf_eq (frameId : UInt32) (steps : List Step) :
    outcomesOf frameId steps = (steps.map (Step.sight frameId)).filterMap Sight.outcome? := by
  rw [outcomesOf, List.filterMap_map]
  rfl

theorem eventsOf_eq (frameId : UInt32) (steps : List Step) :
    eventsOf frameId steps = (steps.map (Step.sight frameId)).flatMap Sight.events := by
  induction steps with
  | nil => rfl
  | cons step rest ih =>
      rw [List.map_cons, List.flatMap_cons, ← ih, ← List.singleton_append, eventsOf_append]
      rfl

theorem framesOf_eq (frameId : UInt32) (steps : List Step) :
    framesOf frameId steps = (steps.map (Step.sight frameId)).flatMap Sight.frames := by
  induction steps with
  | nil => rfl
  | cons step rest ih =>
      rw [List.map_cons, List.flatMap_cons, ← ih, ← List.singleton_append, framesOf_append]
      rfl

section
variable {frameId : UInt32} {keep : Step → Bool} {steps : List Step}

theorem outcomesOf_filter
    (h : ∀ step ∈ steps, keep step = false → step.outcome? frameId = none) :
    outcomesOf frameId (steps.filter keep) = outcomesOf frameId steps := by
  induction steps with
  | nil => rfl
  | cons step rest ih =>
      have hrest := ih fun later hmem => h later (List.mem_cons_of_mem step hmem)
      simp only [outcomesOf] at hrest ⊢
      cases hkeep : keep step with
      | true =>
          rw [List.filter_cons_of_pos hkeep, List.filterMap_cons, List.filterMap_cons, hrest]
      | false =>
          have hnone := h step List.mem_cons_self hkeep
          rw [List.filter_cons_of_neg (by simp [hkeep]), hrest,
            List.filterMap_cons_none hnone]

section
variable (h : ∀ step ∈ steps, keep step = false → Signal.about frameId step.signals = [])
include h

theorem about_filter :
    Signal.about frameId ((steps.filter keep).flatMap Step.signals) =
      Signal.about frameId (steps.flatMap Step.signals) := by
  induction steps with
  | nil => rfl
  | cons step rest ih =>
      have hrest := ih fun later hmem => h later (List.mem_cons_of_mem step hmem)
      rw [List.flatMap_cons, Signal.about_append]
      cases hkeep : keep step with
      | true =>
          rw [List.filter_cons_of_pos hkeep, List.flatMap_cons, Signal.about_append, hrest]
      | false =>
          rw [List.filter_cons_of_neg (by simp [hkeep]), h step List.mem_cons_self hkeep,
            hrest, List.nil_append]

theorem eventsOf_filter : eventsOf frameId (steps.filter keep) = eventsOf frameId steps := by
  rw [eventsOf, ← Signal.events_about, about_filter h, Signal.events_about, eventsOf]

theorem framesOf_filter : framesOf frameId (steps.filter keep) = framesOf frameId steps := by
  rw [framesOf, ← Signal.frames_about, about_filter h, Signal.frames_about, framesOf]

end

end

theorem Call.frameId?_of_not_concerns {frameId : UInt32} {call : Call}
    (h : call.concerns frameId = false) : call.frameId? ≠ some frameId := by
  cases call with
  | push packet =>
      intro hown
      simp [Call.concerns, Option.some.inj hown] at h
  | sweep => simp [Call.frameId?]
  | drain => simp [Call.frameId?]

/-! ## Isolation -/

/--
Without a cap on the frames in flight, leaving the packets of all other frames
out of a run changes nothing that is seen of a frame: neither what becomes of its
packets, nor its events, nor the frames handed over under its id, nor whether it
is in flight after each of the remaining calls.
-/
theorem unaffected_by_other_frames {settings : Settings} {reportsMissing : Bool}
    {start : Reassembly} (hstart : create settings reportsMissing = .ok start)
    (huncapped : settings.maxInFlight = none) (calls : List Call) (frameId : UInt32) :
    let full := start.trail calls
    let remaining := full.filter fun step => step.call.concerns frameId
    let alone := start.trail (calls.filter (Call.concerns frameId))
    alone.map (Step.sight frameId) = remaining.map (Step.sight frameId) ∧
      outcomesOf frameId alone = outcomesOf frameId full ∧
      eventsOf frameId alone = eventsOf frameId full ∧
      framesOf frameId alone = framesOf frameId full ∧
      (alone.map fun step => step.after.isInFlight frameId) =
        remaining.map fun step => step.after.isInFlight frameId := by
  intro full remaining alone
  have hcap : start.settings.maxInFlight = none := by
    rw [eq_initial_of_create hstart]
    exact huncapped
  have hsame := (sound_of_create hstart).sameFor_refl hcap frameId
  obtain ⟨hsights, hquiet⟩ := hsame.sights calls
  replace hsights : alone.map (Step.sight frameId) = remaining.map (Step.sight frameId) :=
    hsights.symm
  have houtcomes : outcomesOf frameId remaining = outcomesOf frameId full := by
    apply outcomesOf_filter
    intro step _ hforeign
    exact Step.outcome?_of_other (Call.frameId?_of_not_concerns hforeign)
  have hevents : eventsOf frameId remaining = eventsOf frameId full := eventsOf_filter hquiet
  have hframes : framesOf frameId remaining = framesOf frameId full := framesOf_filter hquiet
  refine ⟨hsights, ?_, ?_, ?_, ?_⟩
  · rw [← houtcomes, outcomesOf_eq, outcomesOf_eq, hsights]
  · rw [← hevents, eventsOf_eq, eventsOf_eq, hsights]
  · rw [← hframes, framesOf_eq, framesOf_eq, hsights]
  · have hinFlight := congrArg (List.map Sight.inFlight) hsights
    rw [List.map_map, List.map_map] at hinFlight
    exact hinFlight

/-- The packet of another frame between a frame's own two packets leaves no mark. -/
theorem unaffected_by_other_frames_between :
    let first : Reception.Packet := ⟨⟨7, 1, 2, 2⟩, [30, 40], false, rfl, by decide⟩
    let foreign : Reception.Packet := ⟨⟨8, 0, 1, 1⟩, [99], false, rfl, by decide⟩
    let second : Reception.Packet := ⟨⟨7, 0, 2, 2⟩, [10, 20], true, rfl, by decide⟩
    let calls : List Call :=
      [.push first 0 5, .push foreign 0 6, .push second 1 7, .sweep 1 8]
    let start := initial Settings.default true
    create Settings.default true = .ok start ∧ Settings.default.maxInFlight = none ∧
      calls.filter (Call.concerns 7) = [.push first 0 5, .push second 1 7, .sweep 1 8] ∧
      framesOf 7 (start.trail (calls.filter (Call.concerns 7))) =
        framesOf 7 (start.trail calls) ∧
      framesOf 7 (start.trail calls) ≠ [] := by
  intro first foreign second calls start
  have hstart : create Settings.default true = .ok start := rfl
  refine ⟨hstart, rfl, by decide, ?_, ?_⟩
  · exact (unaffected_by_other_frames hstart rfl calls 7).2.2.2.1
  · decide

end Reassembly

end Framecast
