import Framecast.Proofs.Reassembly.History
import Framecast.Proofs.Reassembly.Retirement

/-!
# What the timers see

A sweep judges a frame by two moments of the run: the push that opened it, and the push
of its last accepted packet.  `Dated` reads both off the steps, and every turn of the
frame keeps them to the times of its flight.  So a sweep retires just the frames that
are full or due by their history, and refused packets put nothing off.
-/

namespace Framecast

open Framecast.Assembly (Frame Outcome RejectReason RetireReason Settings)

namespace Reassembly

/-! ## Moments of a run -/

def Step.openedAt? (frameId : UInt32) (step : Step) : Option Nat :=
  match step.call with
  | .push _ _ now =>
      if (Signal.about frameId step.signals).any Signal.opens then some now else none
  | _ => none

def Step.acceptedAt? (frameId : UInt32) (step : Step) : Option Nat :=
  match step.call with
  | .push _ _ now => if step.outcome? frameId = some .accepted then some now else none
  | _ => none

/--
The steps opened a frame last at `openedAt`, and `activeAt` is when a packet of it was
last accepted since, or else when it was opened.
-/
def Dated (frameId : UInt32) (steps : List Step) (openedAt activeAt : Nat) : Prop :=
  ∃ before opening during, steps = before ++ opening :: during ∧
    opening.openedAt? frameId = some openedAt ∧
    (∀ step ∈ during, step.openedAt? frameId = none) ∧
    activeAt =
      ((opening :: during).filterMap (Step.acceptedAt? frameId)).getLast?.getD openedAt

section
variable {frameId : UInt32} {step : Step}

theorem Step.openedAt?_of_silent
    (h : (Signal.about frameId step.signals).any Signal.opens = false) :
    step.openedAt? frameId = none := by
  unfold Step.openedAt?
  cases step.call <;> simp [h]

theorem Step.acceptedAt?_of_other (h : step.call.frameId? ≠ some frameId) :
    step.acceptedAt? frameId = none := by
  unfold Step.acceptedAt?
  cases step.call <;> simp [Step.outcome?_of_other h]

theorem Step.acceptedAt?_push {packet : Reception.Packet} {drops now : Nat} {outcome : Outcome}
    {signals : List Signal} {after : Reassembly} (hframe : packet.frameId = frameId) :
    Step.acceptedAt? frameId ⟨.push packet drops now, .outcome outcome, signals, after⟩ =
      if outcome = .accepted then some now else none := by
  simp [Step.acceptedAt?, Step.outcome?, hframe]

theorem Dated.concat {steps : List Step} {openedAt activeAt : Nat}
    (h : Dated frameId steps openedAt activeAt) (step : Step)
    (hopened : step.openedAt? frameId = none) :
    Dated frameId (steps ++ [step]) openedAt ((step.acceptedAt? frameId).getD activeAt) := by
  obtain ⟨before, opening, during, rfl, hopening, hlast, hactive⟩ := h
  refine ⟨before, opening, during ++ [step], by simp, hopening, ?_, ?_⟩
  · intro other hmem
    rcases List.mem_append.mp hmem with hold | hnew
    · exact hlast other hold
    · rw [List.mem_singleton.mp hnew, hopened]
  · rw [← List.cons_append, List.filterMap_append, hactive]
    cases hstep : step.acceptedAt? frameId with
    | none =>
        rw [List.filterMap_cons_none hstep, List.filterMap_nil, List.append_nil]
        rfl
    | some moment =>
        rw [List.filterMap_cons_some hstep, List.filterMap_nil, List.getLast?_concat]
        rfl

end

/-- Steps have one last opening. -/
theorem eq_of_last_opening {frameId : UInt32} {before during before' during' : List Step}
    {opening opening' : Step} {moment : Nat}
    (h : before ++ opening :: during = before' ++ opening' :: during')
    (hlast : ∀ step ∈ during, step.openedAt? frameId = none)
    (hopening : opening'.openedAt? frameId = some moment)
    (hlonger : before.length ≤ before'.length) : opening :: during = opening' :: during' := by
  obtain ⟨_ | ⟨head, between⟩, -, hrest⟩ :
      ∃ between, before' = before ++ between ∧
        opening :: during = between ++ opening' :: during' := by
    rcases List.append_eq_append_iff.mp h with hcase | ⟨between, hbefore, hrest⟩
    · exact hcase
    · obtain rfl : between = [] := by
        rw [hbefore, List.length_append] at hlonger
        exact List.length_eq_zero_iff.mp (by omega)
      exact ⟨[], by simpa using hbefore.symm, hrest.symm⟩
  · exact hrest
  · -- otherwise the later opening is one of the steps that open nothing
    obtain ⟨-, hduring⟩ := List.cons.inj hrest
    have hnone := hlast opening' (by simp [hduring])
    rw [hopening] at hnone
    exact absurd hnone (by simp)

theorem Dated.unique {frameId : UInt32} {steps : List Step}
    {openedAt activeAt openedAt' activeAt' : Nat}
    (h : Dated frameId steps openedAt activeAt) (h' : Dated frameId steps openedAt' activeAt') :
    openedAt = openedAt' ∧ activeAt = activeAt' := by
  obtain ⟨before, opening, during, hsteps, hopening, hlast, rfl⟩ := h
  obtain ⟨before', opening', during', hsteps', hopening', hlast', rfl⟩ := h'
  have hsame : opening :: during = opening' :: during' := by
    rcases Nat.le_total before.length before'.length with hle | hle
    · exact eq_of_last_opening (hsteps.symm.trans hsteps') hlast hopening' hle
    · exact (eq_of_last_opening (hsteps'.symm.trans hsteps) hlast' hopening hle).symm
  obtain ⟨rfl, rfl⟩ := List.cons.inj hsame
  obtain rfl := Option.some.inj (hopening.symm.trans hopening')
  exact ⟨rfl, rfl⟩

/-! ## Times of flights -/

def Flight.DatedBy (frameId : UInt32) (steps : List Step) (flight : Flight) : Prop :=
  Dated frameId steps flight.openedAt flight.updatedAt

theorem Flight.updatedAt_receive (flight : Flight) (packet : Reception.Packet) (now : Nat) :
    (flight.receive packet now).updatedAt =
      if flight.assembly.verdict packet.header packet.payload = .accepted then now
      else flight.updatedAt := rfl

/-- Whatever turn a frame takes, its flight keeps to the times of its history. -/
theorem Turn.dated {settings : Settings} {reportsMissing : Bool} {frameId : UInt32}
    {before after? : Option Flight} {steps : List Step} (step : Step)
    (h : Turn settings reportsMissing frameId step.call before step.reply
      (Signal.about frameId step.signals) after?)
    (hpast : ∀ flight ∈ before, flight.DatedBy frameId steps) :
    ∀ flight ∈ after?, flight.DatedBy frameId (steps ++ [step]) := by
  obtain ⟨call, reply, signals, after⟩ := step
  simp only at h
  intro flight hflight
  generalize hsignals : Signal.about frameId signals = told at h
  cases h with
  | passed hother =>
      have hdated := (hpast flight hflight).concat ⟨call, reply, signals, after⟩
        (Step.openedAt?_of_silent (by simp [hsignals]))
      rwa [Step.acceptedAt?_of_other hother] at hdated
  | retired => exact absurd hflight (by simp)
  | evicted => exact absurd hflight (by simp)
  | refused => exact absurd hflight (by simp)
  | @opened packet drops now buffer first outcome hframe hready hfirst houtcome =>
      -- whatever the history was, it starts anew with this step
      obtain rfl : first.receive packet now = flight := Option.some.inj hflight
      subst hfirst
      have hopens : (Signal.about frameId signals).any Signal.opens = true := by
        rw [hsignals]
        rfl
      refine ⟨steps, _, [], rfl, if_pos hopens, by simp, ?_⟩
      rw [List.filterMap_cons, Step.acceptedAt?_push hframe, Flight.updatedAt_receive, houtcome]
      split <;> simp_all [Flight.opened, Flight.receive]
  | @received packet drops now old outcome hframe houtcome =>
      obtain rfl : old.receive packet now = flight := Option.some.inj hflight
      have hsilent : (Signal.about frameId signals).any Signal.opens = false := by
        rw [hsignals]
        cases outcome <;> rfl
      have hdated := (hpast old rfl).concat
        ⟨.push packet drops now, .outcome outcome, signals, after⟩
        (Step.openedAt?_of_silent hsilent)
      rw [Step.acceptedAt?_push hframe, houtcome] at hdated
      rw [Flight.DatedBy, Flight.updatedAt_receive]
      split at hdated <;> simp_all [Flight.receive]

/-- Times that are told by the history before a run go on being told along it. -/
theorem Sound.dated_run {reassembly : Reassembly} (h : reassembly.Sound) {frameId : UInt32}
    {steps : List Step}
    (hpast : ∀ flight ∈ reassembly.find? frameId, flight.DatedBy frameId steps)
    (calls : List Call) :
    ∀ flight ∈ (reassembly.run calls).1.find? frameId,
      flight.DatedBy frameId (steps ++ reassembly.trail calls) := by
  induction calls generalizing reassembly steps with
  | nil =>
      rw [trail_nil, List.append_nil]
      exact hpast
  | cons call rest ih =>
      have hturn := (h.turn call frameId).2
      have hnext := Turn.dated (reassembly.perform call) hturn hpast
      rw [trail_cons, List.append_cons]
      exact ih (h.step call).sound hnext

theorem dated_of_find? {settings : Settings} {reportsMissing : Bool} {start : Reassembly}
    (hstart : create settings reportsMissing = .ok start) {calls : List Call}
    {frameId : UInt32} {flight : Flight}
    (hfound : (start.run calls).1.find? frameId = some flight) :
    flight.DatedBy frameId (start.trail calls) := by
  have hpast : ∀ flight ∈ start.find? frameId, flight.DatedBy frameId [] := by
    simp [find?_of_create hstart]
  exact (sound_of_create hstart).dated_run hpast calls flight hfound

/-! ## Falling due -/

/--
Why a frame with these times is to retire: because all of its packets arrived, else
because it has been there for too long, else because too long nothing was accepted.
-/
inductive Due (settings : Settings) (now openedAt activeAt : Nat) (assembly : Assembly) :
    RetireReason → Prop where
  | completed (hfull : assembly.received = assembly.expected) :
      Due settings now openedAt activeAt assembly .completed
  | lifetimeExpired (hlacks : assembly.received ≠ assembly.expected)
      (hold : settings.maxLifetime < now - openedAt) :
      Due settings now openedAt activeAt assembly .lifetimeExpired
  | idleTimeout (hlacks : assembly.received ≠ assembly.expected)
      (hyoung : now - openedAt ≤ settings.maxLifetime)
      (hidle : settings.idleTimeout < now - activeAt) :
      Due settings now openedAt activeAt assembly .idleTimeout

theorem Flight.due?_eq_some_iff {settings : Settings} {now : Nat} {flight : Flight}
    {reason : RetireReason} :
    flight.due? settings now = some reason ↔
      Due settings now flight.openedAt flight.updatedAt flight.assembly reason := by
  simp only [due?, Assembly.isFull, beq_iff_eq]
  constructor
  · intro hdue
    split at hdue
    · rename_i hfull
      exact Option.some.inj hdue ▸ .completed hfull
    rename_i hlacks
    split at hdue
    · rename_i hold
      exact Option.some.inj hdue ▸ .lifetimeExpired hlacks hold
    rename_i hyoung
    split at hdue
    · rename_i hidle
      exact Option.some.inj hdue ▸ .idleTimeout hlacks (by omega) hidle
    · exact absurd hdue (by simp)
  · rintro (hfull | ⟨hlacks, hold⟩ | ⟨hlacks, hyoung, hidle⟩)
    · rw [if_pos hfull]
    · rw [if_neg hlacks, if_pos hold]
    · rw [if_neg hlacks, if_neg (by omega), if_pos hidle]

def Call.looksAt? : Call → Option Nat
  | .sweep _ now => some now
  | _ => none

/--
Whenever the calls look at the timers of the frame and it lacks packets, neither of its
timers has expired.
-/
def Patient (frameId : UInt32) : Reassembly → List Call → Prop
  | _, [] => True
  | state, call :: rest =>
      (∀ now ∈ call.looksAt?, ∀ flight ∈ state.find? frameId,
        flight.assembly.received ≠ flight.assembly.expected →
          now - flight.openedAt ≤ state.settings.maxLifetime ∧
            now - flight.updatedAt ≤ state.settings.idleTimeout) ∧
        Patient frameId (state.step call).1 rest

instance decidablePatient (frameId : UInt32) :
    ∀ state calls, Decidable (Patient frameId state calls)
  | _, [] => inferInstanceAs (Decidable True)
  | state, call :: rest =>
      have := decidablePatient frameId (state.step call).1 rest
      inferInstanceAs (Decidable (_ ∧ _))

theorem Patient.run {frameId : UInt32} {state : Reassembly} {earlier later : List Call}
    (h : Patient frameId state (earlier ++ later)) :
    Patient frameId (state.run earlier).1 later := by
  induction earlier generalizing state with
  | nil => exact h
  | cons call rest ih => exact ih h.2

theorem Patient.append_drain {frameId : UInt32} {state : Reassembly} {calls : List Call}
    (h : Patient frameId state calls) (drops : Nat) :
    Patient frameId state (calls ++ [.drain drops]) := by
  induction calls generalizing state with
  | nil => exact ⟨by simp [Call.looksAt?], trivial⟩
  | cons call rest ih => exact ⟨h.1, ih h.2⟩

/-- Until the timeouts have passed since the clock's zero, every look is in time. -/
theorem Sound.patient_of_looksAt_le {state : Reassembly} (h : state.Sound) (frameId : UInt32)
    {calls : List Call} (hlooks : ∀ call ∈ calls, ∀ now ∈ call.looksAt?,
      now ≤ state.settings.maxLifetime ∧ now ≤ state.settings.idleTimeout) :
    Patient frameId state calls := by
  induction calls generalizing state with
  | nil => trivial
  | cons call rest ih =>
      have hstep := h.step call
      constructor
      · intro now hnow flight _ _
        have hle := hlooks call List.mem_cons_self now hnow
        omega
      · apply ih hstep.sound
        intro later hmem now hnow
        rw [hstep.settings_eq]
        exact hlooks later (List.mem_cons_of_mem call hmem) now hnow

/-- A look at the timers in time retires a frame only when all of its packets arrived. -/
theorem Patient.full_of_due? {frameId : UInt32} {state : Reassembly} {drops now : Nat}
    {rest : List Call} (h : Patient frameId state (.sweep drops now :: rest)) {flight : Flight}
    (hfound : state.find? frameId = some flight) {reason : RetireReason}
    (hdue : flight.due? state.settings now = some reason) :
    reason = .completed ∧ flight.assembly.isFull = true := by
  have hintime := h.1 now rfl flight hfound
  rw [Assembly.isFull, beq_iff_eq]
  cases Flight.due?_eq_some_iff.mp hdue with
  | completed hfull => exact ⟨rfl, hfull⟩
  | lifetimeExpired hlacks hold =>
      have hyoung := (hintime hlacks).1
      omega
  | idleTimeout hlacks _ hidle =>
      have hactive := (hintime hlacks).2
      omega

/-! ## What a sweep does -/

def Signal.leavers (signals : List Signal) : List (UInt32 × RetireReason) :=
  (retirements signals).map fun told => (told.1, told.2.2)

theorem leavers_sweep (reassembly : Reassembly) (drops now : Nat) :
    Signal.leavers (reassembly.sweep drops now).2.2 =
      (reassembly.dueFlights now).map fun entry => (entry.1.id, entry.2) := by
  rw [Signal.leavers, retirements_sweep, List.map_map]
  rfl

section
variable {reassembly : Reassembly} (h : reassembly.Sound) (drops now : Nat)
include h

theorem Sound.mem_leavers_sweep {frameId : UInt32} {reason : RetireReason} :
    (frameId, reason) ∈ Signal.leavers (reassembly.sweep drops now).2.2 ↔
      ∃ flight, reassembly.find? frameId = some flight ∧
        Due reassembly.settings now flight.openedAt flight.updatedAt flight.assembly reason := by
  rw [leavers_sweep, List.mem_map]
  constructor
  · rintro ⟨entry, hentry, hsame⟩
    obtain ⟨flight, hmem, hleaves⟩ := List.mem_filterMap.mp hentry
    obtain ⟨reason', hdue, rfl⟩ := Option.map_eq_some_iff.mp hleaves
    obtain ⟨rfl, rfl⟩ := Prod.mk.inj hsame
    exact ⟨flight, h.ascending.lookup_mem hmem, Flight.due?_eq_some_iff.mp hdue⟩
  · rintro ⟨flight, hfound, hdue⟩
    have hmem : flight ∈ reassembly.flights := List.mem_of_find?_eq_some hfound
    refine ⟨(flight, reason), List.mem_filterMap.mpr ⟨flight, hmem, ?_⟩, ?_⟩
    · rw [Flight.due?_eq_some_iff.mpr hdue]
      rfl
    · rw [← id_of_lookup hfound]

theorem Sound.leavers_sweep_ascending :
    ((Signal.leavers (reassembly.sweep drops now).2.2).map Prod.fst).Pairwise (· < ·) := by
  rw [leavers_sweep, List.map_map, List.pairwise_map]
  refine List.Pairwise.filterMap _ ?_ h.ascending
  intro flight later hlt entry hentry entry' hentry'
  obtain ⟨_, -, rfl⟩ := Option.map_eq_some_iff.mp hentry
  obtain ⟨_, -, rfl⟩ := Option.map_eq_some_iff.mp hentry'
  exact hlt

theorem Sound.find?_sweep (frameId : UInt32) :
    (reassembly.sweep drops now).1.find? frameId =
      if frameId ∈ (Signal.leavers (reassembly.sweep drops now).2.2).map Prod.fst then none
      else reassembly.find? frameId := by
  have hleft : (reassembly.sweep drops now).1.find? frameId =
      (reassembly.find? frameId).filter fun flight =>
        (flight.due? reassembly.settings now).isNone :=
    (find?_retireAll _ _ _ _).trans (h.ascending.lookup_filter _ frameId)
  have hleaves : frameId ∈ (Signal.leavers (reassembly.sweep drops now).2.2).map Prod.fst ↔
      ∃ flight, reassembly.find? frameId = some flight ∧
        (flight.due? reassembly.settings now).isSome := by
    simp only [List.mem_map, Prod.exists, exists_and_right, exists_eq_right,
      h.mem_leavers_sweep drops now, Option.isSome_iff_exists, Flight.due?_eq_some_iff]
    exact ⟨fun ⟨reason, flight, hfound, hdue⟩ => ⟨flight, hfound, reason, hdue⟩,
      fun ⟨flight, hfound, reason, hdue⟩ => ⟨reason, flight, hfound, hdue⟩⟩
  rw [hleft]
  cases hfound : reassembly.find? frameId with
  | none => simp
  | some flight =>
      rw [hfound] at hleaves
      cases hdue : flight.due? reassembly.settings now with
      | none =>
          rw [if_neg (by simp [hleaves, hdue])]
          simp [Option.filter, hdue]
      | some reason =>
          rw [if_pos (by simp [hleaves, hdue])]
          simp [Option.filter, hdue]

end

theorem frames_sweep (reassembly : Reassembly) (drops now : Nat) :
    (Signal.frames (reassembly.sweep drops now).2.2).map Frame.id =
      (Signal.leavers (reassembly.sweep drops now).2.2).map Prod.fst := by
  rw [leavers_sweep, List.map_map]
  show (Signal.frames (retireAll drops (reassembly.dueFlights now) _).2).map Frame.id = _
  rw [frames_retireAll, List.map_map]
  rfl

/-- A packet that its frame in flight refuses moves none of the frame's times. -/
theorem Sound.dated_of_rejected {reassembly : Reassembly} (h : reassembly.Sound)
    {packet : Reception.Packet} {flight : Flight}
    (hfound : reassembly.find? packet.frameId = some flight) {steps : List Step}
    (hdated : flight.DatedBy packet.frameId steps) {drops now : Nat} {reason : RejectReason}
    (hrejected : (reassembly.push packet drops now).2.1 = .rejected reason) :
    Dated packet.frameId (steps ++ [reassembly.perform (.push packet drops now)])
      flight.openedAt flight.updatedAt := by
  have hturn := (h.turn (.push packet drops now) packet.frameId).2
  rw [hfound] at hturn
  have hnext := Turn.dated (reassembly.perform (.push packet drops now)) hturn
    (fun other hother => Option.some.inj hother ▸ hdated)
  have hverdict : flight.assembly.verdict packet.header packet.payload = .rejected reason := by
    rwa [push_of_present hfound, deliver_of_some hfound] at hrejected
  have hkept : (reassembly.push packet drops now).1.find? packet.frameId =
      some (flight.receive packet now) := by
    rw [push_of_present hfound, (h.deliver_spec hfound now).2, if_pos rfl]
  have hreceived := hnext _ hkept
  rw [Flight.DatedBy, Flight.updatedAt_receive, hverdict, if_neg (by simp)] at hreceived
  exact hreceived

/--
A sweep after any run retires the frames in flight that are full or due by the history,
for the first reason that applies, in ascending order of their ids, each with one frame
handed over, and answers how many; every other flight stays as it is.  The history that
counts is the push that opened the frame and the last accepted push since.
-/
theorem sweep_retires_by_history {settings : Settings} {reportsMissing : Bool}
    {start : Reassembly} (hstart : create settings reportsMissing = .ok start)
    (calls : List Call) (drops now : Nat) :
    let steps := start.trail calls
    let state := (start.run calls).1
    let swept := state.sweep drops now
    let leavers := Signal.leavers swept.2.2
    (∀ frameId reason, (frameId, reason) ∈ leavers ↔
      ∃ flight openedAt activeAt, state.find? frameId = some flight ∧
        Dated frameId steps openedAt activeAt ∧
          Due settings now openedAt activeAt flight.assembly reason) ∧
      (leavers.map Prod.fst).Pairwise (· < ·) ∧
      (Signal.frames swept.2.2).map Frame.id = leavers.map Prod.fst ∧
      swept.2.1 = leavers.length ∧
      (∀ frameId, swept.1.find? frameId =
        if frameId ∈ leavers.map Prod.fst then none else state.find? frameId) ∧
      ∀ frameId flight, state.find? frameId = some flight →
        Dated frameId steps flight.openedAt flight.updatedAt ∧
        ∀ packet drops' now' reason, packet.frameId = frameId →
          (state.push packet drops' now').2.1 = .rejected reason →
            Dated frameId (steps ++ [state.perform (.push packet drops' now')])
              flight.openedAt flight.updatedAt := by
  intro steps state swept leavers
  have hrun := (sound_of_create hstart).run calls
  have hsettings : state.settings = settings :=
    hrun.settings_eq.trans (settings_of_create hstart)
  refine ⟨?_, hrun.sound.leavers_sweep_ascending drops now, frames_sweep state drops now, ?_,
    hrun.sound.find?_sweep drops now, ?_⟩
  · intro frameId reason
    rw [hrun.sound.mem_leavers_sweep drops now, hsettings]
    constructor
    · rintro ⟨flight, hfound, hdue⟩
      exact ⟨flight, _, _, hfound, dated_of_find? hstart hfound, hdue⟩
    · rintro ⟨flight, openedAt, activeAt, hfound, hdated, hdue⟩
      obtain ⟨rfl, rfl⟩ := hdated.unique (dated_of_find? hstart hfound)
      exact ⟨flight, hfound, hdue⟩
  · have hcount := congrArg List.length (leavers_sweep state drops now)
    rw [List.length_map] at hcount
    exact hcount.symm
  · intro frameId flight hfound
    have hdated := dated_of_find? hstart hfound
    refine ⟨hdated, ?_⟩
    rintro packet drops' now' reason rfl hrejected
    exact hrun.sound.dated_of_rejected hfound hdated hrejected

/-- A packet that comes twice keeps no frame alive, and a clock gone back ends none. -/
theorem sweep_retires_by_history_idle :
    let settings := { Settings.default with
      maxFrameSize := 16, stride := 4, maxPayload := 4, idleTimeout := 10, maxLifetime := 30 }
    let idle : Reception.Packet := ⟨⟨7, 0, 2, 1⟩, [10], false, rfl, by decide⟩
    let active : Reception.Packet := ⟨⟨9, 0, 2, 1⟩, [30], false, rfl, by decide⟩
    let full : Reception.Packet := ⟨⟨8, 0, 1, 1⟩, [20], false, rfl, by decide⟩
    let calls : List Call :=
      [.push idle 0 5, .push active 0 18, .push full 0 6, .push idle 0 16]
    let start := initial settings false
    create settings false = .ok start ∧
      Signal.leavers ((start.run calls).1.sweep 0 17).2.2 =
        [(7, .idleTimeout), (8, .completed)] ∧
      (∃ flight openedAt activeAt, (start.run calls).1.find? 7 = some flight ∧
        Dated 7 (start.trail calls) openedAt activeAt ∧
          Due settings 17 openedAt activeAt flight.assembly .idleTimeout) ∧
      ((start.run calls).1.sweep 0 17).1.find? 9 = (start.run calls).1.find? 9 := by
  intro settings idle active full calls start
  have hstart : create settings false = .ok start := rfl
  have hleavers : Signal.leavers ((start.run calls).1.sweep 0 17).2.2 =
      [(7, .idleTimeout), (8, .completed)] := by
    decide
  obtain ⟨hretired, -, -, -, hleft, -⟩ := sweep_retires_by_history hstart calls 0 17
  rw [hleavers] at hretired hleft
  refine ⟨hstart, hleavers, (hretired 7 .idleTimeout).mp (by decide), ?_⟩
  rw [hleft 9, if_neg (by decide)]

end Reassembly

end Framecast
