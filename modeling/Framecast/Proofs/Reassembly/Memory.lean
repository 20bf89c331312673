import Mathlib.Data.List.DropRight
import Framecast.Proofs.Reassembly.Chronicle
import Framecast.Proofs.Reassembly.Room

/-!
# The memory of evictions

Under a limit the reassembly remembers as many of its last evictions as the limit
allows, and refuses late packets of these frames.  The memory is always the end of
the history of evictions, holds no id twice and none that is in flight; so an
evicted frame opens again only after as many other evictions.
-/

namespace Framecast

open Framecast.Assembly (Event FrameState RetireReason Settings)

namespace Reassembly

/-! ## The end of a list -/

theorem length_rtake {α : Type} (items : List α) (count : Nat) :
    (items.rtake count).length = min count items.length := by
  rw [List.rtake, List.length_drop]
  omega

theorem rtake_append_of_le {α : Type} {items later : List α} {count : Nat}
    (h : count ≤ later.length) : (items ++ later).rtake count = later.rtake count := by
  have hdrop : (items ++ later).length - count = items.length + (later.length - count) := by
    rw [List.length_append]
    omega
  rw [List.rtake, List.rtake, hdrop, List.drop_length_add_append]

/-- What has left the last items of a list is followed by that many others. -/
theorem le_length_filter_of_not_mem_rtake {α : Type} [DecidableEq α] {items later : List α}
    {item : α} {count : Nat} (h : item ∉ (items ++ item :: later).rtake count) :
    count ≤ (later.filter (· ≠ item)).length := by
  by_cases hle : count ≤ later.length
  · have hlast : (items ++ item :: later).rtake count = later.rtake count := by
      rw [List.append_cons, rtake_append_of_le hle]
    rw [hlast] at h
    have hothers : (later.rtake count).filter (· ≠ item) = later.rtake count := by
      rw [List.filter_eq_self]
      intro other hmem
      exact decide_eq_true fun hsame => h (hsame ▸ hmem)
    have hsub : (later.rtake count).Sublist later := List.drop_sublist _ _
    calc count = (later.rtake count).length := by rw [length_rtake, Nat.min_eq_left hle]
      _ = ((later.rtake count).filter (· ≠ item)).length := by rw [hothers]
      _ ≤ (later.filter (· ≠ item)).length := (hsub.filter _).length_le
  · have hdrop : (items ++ item :: later).length - count ≤ items.length := by
      simp only [List.length_append, List.length_cons]
      omega
    rw [List.rtake, List.drop_append_of_le_length hdrop] at h
    exact absurd (List.mem_append_right _ List.mem_cons_self) h

/-! ## Evictions -/

def evictions (signals : List Signal) : List UInt32 :=
  ((Signal.retirements signals).filter fun entry => entry.2.2 = .evicted).map Prod.fst

@[simp] theorem evictions_nil : evictions [] = [] := rfl

@[simp] theorem evictions_append (signals later : List Signal) :
    evictions (signals ++ later) = evictions signals ++ evictions later := by
  simp [evictions]

theorem evictions_of_forall_ne {signals : List Signal}
    (h : ∀ entry ∈ Signal.retirements signals, entry.2.2 ≠ .evicted) :
    evictions signals = [] := by
  rw [evictions, List.map_eq_nil_iff, List.filter_eq_nil_iff]
  intro entry hmem
  simpa using h entry hmem

theorem evictions_of_retirements_nil {signals : List Signal}
    (h : Signal.retirements signals = []) : evictions signals = [] := by
  rw [evictions, h]
  rfl

theorem evictions_sweep (reassembly : Reassembly) (drops now : Nat) :
    evictions (reassembly.sweep drops now).2.2 = [] := by
  apply evictions_of_forall_ne
  rw [retirements_sweep]
  intro entry hmem
  obtain ⟨due, hdue, rfl⟩ := List.mem_map.mp hmem
  exact ne_evicted_of_due hdue

theorem evictions_drain (reassembly : Reassembly) (drops : Nat) :
    evictions (reassembly.drain drops).2.2 = [] := by
  apply evictions_of_forall_ne
  rw [retirements_drain]
  intro entry hmem
  obtain ⟨flight, -, rfl⟩ := List.mem_map.mp hmem
  simp [retirement]

theorem evictedIds_retireAll (drops : Nat) (leaving : List (Flight × RetireReason))
    (reassembly : Reassembly) :
    (retireAll drops leaving reassembly).1.evictedIds = reassembly.evictedIds := by
  obtain ⟨counters, spares, hstate, -⟩ := retireAll_frame drops leaving reassembly
  rw [hstate]

theorem evictedIds_deliver (reassembly : Reassembly) (packet : Reception.Packet) (now : Nat) :
    (reassembly.deliver packet now).1.evictedIds = reassembly.evictedIds := by
  rw [deliver]
  split <;> rfl

theorem mem_remember {limit : Nat} {frameId other : UInt32} {evictedIds : List UInt32}
    (h : other ∈ remember limit frameId evictedIds) : other = frameId ∨ other ∈ evictedIds := by
  rw [remember, List.mem_append, List.mem_singleton] at h
  rcases h with hold | hnew
  · split at hold
    · exact Or.inr (List.mem_of_mem_drop hold)
    · exact Or.inr hold
  · exact Or.inl hnew

theorem nodup_remember {limit : Nat} {frameId : UInt32} {evictedIds : List UInt32}
    (h : evictedIds.Nodup) (hnew : frameId ∉ evictedIds) :
    (remember limit frameId evictedIds).Nodup := by
  have hkept : ∀ kept : List UInt32, kept.Sublist evictedIds → (kept ++ [frameId]).Nodup := by
    intro kept hsub
    refine List.nodup_append.mpr ⟨h.sublist hsub, List.pairwise_singleton _ _, ?_⟩
    intro other hother last hlast hsame
    rw [hsame, List.mem_singleton.mp hlast] at hother
    exact hnew (hsub.subset hother)
  rw [remember]
  split
  · exact hkept _ (List.drop_sublist _ _)
  · exact hkept _ (List.Sublist.refl _)

/-- A full memory gives up its oldest id for a new one, and stays the end of the history. -/
theorem remember_rtake {limit : Nat} (hpos : 0 < limit) (frameId : UInt32)
    (history : List UInt32) :
    remember limit frameId (history.rtake limit) = (history ++ [frameId]).rtake limit := by
  obtain ⟨rest, rfl⟩ := Nat.exists_eq_succ_of_ne_zero (Nat.ne_of_gt hpos)
  rw [List.rtake_concat_succ, remember, length_rtake, List.rtake, List.rtake]
  by_cases hfull : rest + 1 ≤ history.length
  · have hnext : history.length - (rest + 1) + 1 = history.length - rest := by omega
    rw [if_pos (by omega), List.drop_drop, hnext]
  · have hall : history.length - (rest + 1) = history.length - rest := by omega
    rw [if_neg (by omega), hall]

/-! ## The memory -/

/-- The memory is the end of the history, and apart from what is in flight. -/
structure Remembers (limit : Nat) (told : List Signal) (state : Reassembly) : Prop where
  evictedIds_eq : state.evictedIds = (evictions told).rtake limit
  nodup : state.evictedIds.Nodup
  absent : ∀ frameId ∈ state.evictedIds, state.find? frameId = none

theorem remembers_initial (settings : Settings) (reportsMissing : Bool) (limit : Nat) :
    Remembers limit [] (initial settings reportsMissing) :=
  ⟨by simp [initial], List.nodup_nil, by simp [initial]⟩

section
variable {limit : Nat} {told : List Signal} {state : Reassembly} (h : Remembers limit told state)
include h

theorem Remembers.keep {after : Reassembly} {signals : List Signal}
    (hsilent : evictions signals = []) (hids : after.evictedIds = state.evictedIds)
    (habsent : ∀ frameId ∈ state.evictedIds, after.find? frameId = none) :
    Remembers limit (told ++ signals) after := by
  refine ⟨?_, hids ▸ h.nodup, hids ▸ habsent⟩
  rw [hids, h.evictedIds_eq, evictions_append, hsilent, List.append_nil]

theorem Remembers.evictOldest (hsound : state.Sound) (hpos : 0 < limit) (drops : Nat) :
    Remembers limit (told ++ (state.evictOldest limit drops).2)
      (state.evictOldest limit drops).1 := by
  cases hold : oldestFlight state.flights with
  | none =>
      rw [Reassembly.evictOldest, hold]
      exact h.keep rfl rfl h.absent
  | some flight =>
      have hfound : state.find? flight.id = some flight :=
        hsound.ascending.lookup_mem (oldestFlight_mem hold)
      have hnew : flight.id ∉ state.evictedIds := by
        intro hmem
        rw [h.absent flight.id hmem] at hfound
        exact absurd hfound (by simp)
      have hevicted : evictions (retireAll drops [(flight, .evicted)]
          (state.withoutEvicted limit flight)).2 = [flight.id] := by
        rw [evictions, retirements_retireAll]
        rfl
      rw [evictOldest_of_some hold]
      refine ⟨?_, ?_, ?_⟩
      · rw [evictedIds_retireAll, evictions_append, hevicted, ← remember_rtake hpos,
          ← h.evictedIds_eq]
        rfl
      · rw [evictedIds_retireAll]
        exact nodup_remember h.nodup hnew
      · rw [evictedIds_retireAll]
        intro frameId hmem
        rw [find?_retireAll, hsound.find?_withoutEvicted]
        rcases mem_remember hmem with rfl | hearlier
        · exact if_pos rfl
        · rw [h.absent frameId hearlier, ite_self]

theorem Remembers.makeRoom (hsound : state.Sound) (hcapped : state.Capped)
    (hlimit : state.settings.maxInFlight = some limit) (drops : Nat) :
    Remembers limit (told ++ (state.makeRoom drops).2) (state.makeRoom drops).1 := by
  obtain ⟨hpos, hle⟩ := hcapped limit hlimit
  rcases Nat.lt_or_eq_of_le hle with hroom | hfull
  · rw [makeRoom_of_room hlimit hroom]
    exact h.keep rfl rfl h.absent
  · rw [makeRoom_of_full hlimit hfull]
    exact h.evictOldest hsound hpos drops

omit h in
/-- Room is made by others than the frame for which it is made. -/
theorem not_mem_evictedIds_makeRoom (hcapped : state.Capped)
    (hlimit : state.settings.maxInFlight = some limit) {frameId : UInt32}
    (habsent : state.find? frameId = none) (hnew : frameId ∉ state.evictedIds) (drops : Nat) :
    frameId ∉ (state.makeRoom drops).1.evictedIds := by
  rcases Nat.lt_or_eq_of_le (hcapped limit hlimit).2 with hroom | hfull
  · rw [makeRoom_of_room hlimit hroom]
    exact hnew
  rw [makeRoom_of_full hlimit hfull]
  cases hold : oldestFlight state.flights with
  | none =>
      rw [Reassembly.evictOldest, hold]
      exact hnew
  | some flight =>
      rw [evictOldest_of_some hold, evictedIds_retireAll]
      intro hmem
      rcases mem_remember hmem with rfl | hearlier
      · exact lookup_eq_none_iff.mp habsent flight (oldestFlight_mem hold) rfl
      · exact hnew hearlier

omit h in
theorem Sound.find?_none_step (hsound : state.Sound) {frameId : UInt32} {call : Call}
    (hother : call.frameId? ≠ some frameId) (habsent : state.find? frameId = none) :
    (state.step call).1.find? frameId = none := by
  have hturn := (hsound.turn call frameId).2
  rw [habsent] at hturn
  generalize (state.step call).1.find? frameId = after? at hturn ⊢
  generalize Signal.about frameId (state.step call).2.2 = signals at hturn
  generalize (state.step call).2.1 = reply at hturn
  cases hturn with
  | passed => rfl
  | refused => rfl
  | opened hframe => exact absurd (congrArg some hframe) hother

theorem Remembers.push (hsound : state.Sound) (hcapped : state.Capped)
    (hlimit : state.settings.maxInFlight = some limit) (packet : Reception.Packet)
    (drops now : Nat) :
    Remembers limit (told ++ (state.push packet drops now).2.2)
      (state.push packet drops now).1 := by
  cases hfound : state.find? packet.frameId with
  | some flight =>
      have hreceived := (hsound.deliver_spec hfound now).2
      rw [push_of_present hfound]
      refine h.keep ?_ (evictedIds_deliver ..) ?_
      · rw [deliver_of_some hfound]
        exact evictions_of_retirements_nil (retirements_packetEvent ..)
      · intro frameId hmem
        have hne : packet.frameId ≠ frameId := by
          rintro rfl
          rw [h.absent _ hmem] at hfound
          exact absurd hfound (by simp)
        rw [hreceived, if_neg hne, h.absent frameId hmem]
  | none =>
      by_cases hlate : packet.frameId ∈ state.evictedIds
      · rw [push_of_refused hfound hlate]
        exact h.keep rfl rfl h.absent
      · have hroom := h.makeRoom hsound hcapped hlimit drops
        have hnew := not_mem_evictedIds_makeRoom hcapped hlimit hfound hlate drops
        obtain ⟨-, buffer, flight, outcome, -, -, -, -, hseen⟩ :=
          hsound.push_absent_spec hfound hlate drops now
        obtain ⟨outcome', hsignals⟩ := hsound.signals_push_absent hfound hlate drops now
        rw [hsignals, ← List.append_assoc]
        refine hroom.keep (evictions_of_retirements_nil (retirements_opening ..)) ?_ ?_
        · rw [push_of_absent hfound hlate]
          exact evictedIds_deliver ..
        · intro frameId hmem
          have hne : packet.frameId ≠ frameId := fun hsame => hnew (hsame ▸ hmem)
          rw [(hseen frameId).1, if_neg hne]
          exact hroom.absent frameId hmem

theorem Remembers.step (hsound : state.Sound) (hcapped : state.Capped)
    (hlimit : state.settings.maxInFlight = some limit) (call : Call) :
    Remembers limit (told ++ (state.step call).2.2) (state.step call).1 := by
  cases call with
  | push packet drops now => exact h.push hsound hcapped hlimit packet drops now
  | sweep drops now =>
      refine h.keep (evictions_sweep state drops now) (evictedIds_retireAll ..) ?_
      intro frameId hmem
      exact hsound.find?_none_step (by simp [Call.frameId?]) (h.absent frameId hmem)
  | drain drops =>
      refine h.keep (evictions_drain state drops) (evictedIds_retireAll ..) ?_
      intro frameId hmem
      exact hsound.find?_none_step (by simp [Call.frameId?]) (h.absent frameId hmem)

end

theorem Remembers.run {limit : Nat} {told : List Signal} {state : Reassembly}
    (h : Remembers limit told state) (hsound : state.Sound) (hcapped : state.Capped)
    (hlimit : state.settings.maxInFlight = some limit) (calls : List Call) :
    Remembers limit (told ++ (state.trail calls).flatMap Step.signals) (state.run calls).1 := by
  induction calls generalizing told state with
  | nil => exact h.keep rfl rfl h.absent
  | cons call rest ih =>
      have hstep := hsound.step call
      have hnext := ih (h.step hsound hcapped hlimit call) hstep.sound
        (hcapped.step hsound call) (hstep.settings_eq ▸ hlimit)
      rw [trail_cons, List.flatMap_cons, ← List.append_assoc]
      exact hnext

/-! ## Coming back -/

/-- A call evicts at most one frame. -/
theorem Sound.evictions_step_eq {state : Reassembly} (hsound : state.Sound)
    (hcapped : state.Capped) {limit : Nat} (hlimit : state.settings.maxInFlight = some limit)
    {call : Call} {frameId : UInt32} (hmem : frameId ∈ evictions (state.step call).2.2) :
    evictions (state.step call).2.2 = [frameId] := by
  cases call with
  | push packet drops now =>
      replace hmem : frameId ∈ evictions (state.push packet drops now).2.2 := hmem
      show evictions (state.push packet drops now).2.2 = [frameId]
      by_cases hcrowded : state.Crowded limit packet.frameId
      · obtain ⟨habsent, hnew, hfull⟩ := hcrowded
        obtain ⟨victim, hreplaces⟩ : ∃ victim, Replaces state (state.push packet drops now).1
            (state.push packet drops now).2.2 packet drops victim :=
          hsound.replaces hlimit habsent hnew hfull (hcapped limit hlimit).1 now
        have hone : evictions (state.push packet drops now).2.2 = [victim.id] := by
          rw [evictions, hreplaces.retirements_eq]
          rfl
        rw [hone] at hmem ⊢
        rw [List.mem_singleton.mp hmem]
      · have hquiet := hsound.undisturbed_of_not_crowded hcapped hlimit hcrowded drops now
        rw [evictions_of_retirements_nil hquiet.retirements_eq] at hmem
        exact absurd hmem List.not_mem_nil
  | sweep drops now =>
      have hnone := evictions_sweep state drops now
      exact absurd (hnone ▸ hmem) List.not_mem_nil
  | drain drops =>
      have hnone := evictions_drain state drops
      exact absurd (hnone ▸ hmem) List.not_mem_nil

/-- A frame that is opened is not remembered as evicted. -/
theorem Remembers.not_mem_of_started {limit : Nat} {told : List Signal} {state : Reassembly}
    (h : Remembers limit told state) (hsound : state.Sound) {call : Call} {frameId : UInt32}
    {count drops : Nat}
    (hmem : .started frameId count drops ∈ Signal.events (state.step call).2.2) :
    frameId ∉ state.evictedIds := by
  intro hremembered
  have hown : .started frameId count drops ∈
      Signal.events (Signal.about frameId (state.step call).2.2) := by
    rw [Signal.events_about]
    exact List.mem_filter.mpr ⟨hmem, decide_eq_true rfl⟩
  obtain ⟨packet, now, rfl, rfl, -⟩ := (hsound.turn call frameId).2.started_of_mem hown
  replace hmem : .started packet.frameId count drops ∈
      Signal.events (state.push packet drops now).2.2 := hmem
  rw [push_of_refused (h.absent _ hremembered) hremembered] at hmem
  simp [refuseEvicted, packetEvent] at hmem

theorem push_eq_rejected_evicted_iff {state : Reassembly} (hsound : state.Sound)
    (habsent : ∀ frameId ∈ state.evictedIds, state.find? frameId = none)
    (packet : Reception.Packet) (drops now : Nat) :
    (state.push packet drops now).2.1 = .rejected .evicted ↔
      packet.frameId ∈ state.evictedIds := by
  constructor
  · intro hanswer
    cases hfound : state.find? packet.frameId with
    | some flight =>
        rw [push_of_present hfound, deliver_of_some hfound] at hanswer
        exact absurd hanswer (Assembly.verdict_ne_evicted _ _ _)
    | none =>
        by_contra hnew
        obtain ⟨-, buffer, flight, outcome, -, -, houtcome, hreply, -⟩ :=
          hsound.push_absent_spec hfound hnew drops now
        rw [hreply, houtcome] at hanswer
        exact absurd hanswer (Assembly.verdict_ne_evicted _ _ _)
  · intro hmem
    rw [push_of_refused (habsent _ hmem) hmem]
    rfl

/-! ## Every run -/

section
variable {settings : Settings} {reportsMissing : Bool} {start : Reassembly}
  (hstart : create settings reportsMissing = .ok start) {limit : Nat}
  (hlimit : settings.maxInFlight = some limit)
include hstart hlimit

theorem remembers_run (calls : List Call) :
    let state := (start.run calls).1
    state.Sound ∧ state.Capped ∧ state.settings.maxInFlight = some limit ∧
      Remembers limit ((start.trail calls).flatMap Step.signals) state := by
  intro state
  have hsound := sound_of_create hstart
  have hinitial := eq_initial_of_create hstart
  have hrun := hsound.run calls
  have hterms : start.settings.maxInFlight = some limit := by
    rw [hinitial]
    exact hlimit
  have hcapped : start.Capped := by
    rw [hinitial]
    exact capped_initial (valid_of_create hstart) reportsMissing
  have hempty : Remembers limit [] start := by
    rw [hinitial]
    exact remembers_initial settings reportsMissing limit
  have hremembers := hempty.run hsound hcapped hterms calls
  rw [List.nil_append] at hremembers
  exact ⟨hrun.sound, hcapped.run hsound calls, hrun.settings_eq ▸ hterms, hremembers⟩

theorem evictions_before_reopening {calls : List Call} {before between after : List Step}
    {evicting opening : Step}
    (hsplit : start.trail calls = before ++ evicting :: (between ++ opening :: after))
    {frameId : UInt32} (hevicted : frameId ∈ evictions evicting.signals) {count drops : Nat}
    (hopened : .started frameId count drops ∈ Signal.events opening.signals) :
    limit ≤ ((evictions (between.flatMap Step.signals)).filter (· ≠ frameId)).length := by
  obtain ⟨earlier, call, later, -, rfl, rfl, hrest⟩ := exists_of_trail_eq hsplit
  obtain ⟨middle, reopening, last, -, rfl, rfl, -⟩ := exists_of_trail_eq hrest.symm
  obtain ⟨hsound, hcapped, hterms, -⟩ := remembers_run hstart hlimit earlier
  have hone : evictions ((start.run earlier).1.step call).2.2 = [frameId] :=
    hsound.evictions_step_eq hcapped hterms hevicted
  obtain ⟨hsound', -, -, hremembers⟩ := remembers_run hstart hlimit (earlier ++ call :: middle)
  have hstarted : .started frameId count drops ∈
      Signal.events ((start.run (earlier ++ call :: middle)).1.step reopening).2.2 := by
    rw [run_append_state]
    exact hopened
  have hforgotten := hremembers.not_mem_of_started hsound' hstarted
  rw [hremembers.evictedIds_eq, trail_append, trail_cons, List.flatMap_append,
    List.flatMap_cons, evictions_append, evictions_append] at hforgotten
  have hhistory : evictions ((start.run earlier).1.perform call).signals = [frameId] := hone
  rw [hhistory, List.singleton_append] at hforgotten
  exact le_length_filter_of_not_mem_rtake hforgotten

/--
Under a limit the memory is the end of the history of evictions, as long as the limit
allows; it holds no id twice and none that is in flight.  A packet is refused as late just
when its frame is among these last evictions, and then nothing changes but the count of
refused packets.  A frame whose eviction was told opens again only after as many evictions
of other frames as the limit says.
-/
theorem memory_is_last_evictions (calls : List Call) :
    let steps := start.trail calls
    let state := (start.run calls).1
    let history := evictions (steps.flatMap Step.signals)
    state.evictedIds = history.rtake limit ∧
      state.evictedIds.length = min limit history.length ∧ state.evictedIds.Nodup ∧
      (∀ frameId ∈ state.evictedIds, state.isInFlight frameId = false) ∧
      (∀ packet drops now,
        ((state.push packet drops now).2.1 = .rejected .evicted ↔
          packet.frameId ∈ history.rtake limit) ∧
        (packet.frameId ∈ history.rtake limit →
          state.push packet drops now =
            ({ state with
                counters := { state.counters with
                  rejected := state.counters.rejected + 1 } },
              .rejected .evicted,
              [.event (.rejected packet.frameId packet.header.packetId .evicted)]))) ∧
      ∀ before evicting between opening after frameId count drops,
        steps = before ++ evicting :: (between ++ opening :: after) →
        frameId ∈ evictions evicting.signals →
        .started frameId count drops ∈ Signal.events opening.signals →
          limit ≤
            ((evictions (between.flatMap Step.signals)).filter (· ≠ frameId)).length := by
  intro steps state history
  obtain ⟨hsound, -, -, hremembers⟩ := remembers_run hstart hlimit calls
  have hids : state.evictedIds = history.rtake limit := hremembers.evictedIds_eq
  refine ⟨hids, ?_, hremembers.nodup, ?_, ?_, ?_⟩
  · rw [hids, length_rtake]
  · intro frameId hmem
    rw [isInFlight_eq_isSome, hremembers.absent frameId hmem]
    rfl
  · intro packet drops now
    rw [← hids]
    refine ⟨push_eq_rejected_evicted_iff hsound hremembers.absent packet drops now, ?_⟩
    intro hlate
    rw [push_of_refused (hremembers.absent _ hlate) hlate]
    rfl
  · intro before evicting between opening after frameId count drops hsplit hevicted hopened
    exact evictions_before_reopening hstart hlimit hsplit hevicted hopened

end

/-- A frame gives way to a second one, that to a third, and the third to the first again. -/
theorem memory_is_last_evictions_reopened :
    let settings := { Settings.default with
      maxFrameSize := 16, stride := 4, maxPayload := 4, maxInFlight := some 1 }
    let packet : Reception.Packet := ⟨⟨7, 0, 2, 1⟩, [10], false, rfl, by decide⟩
    let second : Reception.Packet := ⟨⟨8, 0, 1, 1⟩, [20], false, rfl, by decide⟩
    let third : Reception.Packet := ⟨⟨9, 0, 1, 1⟩, [30], false, rfl, by decide⟩
    let start := initial settings false
    let opened := (start.step (.push packet 0 5)).1
    let evicted := (opened.step (.push second 0 6)).1
    let calls : List Call :=
      [.push packet 0 5, .push second 0 6, .push third 0 7, .push packet 0 8]
    let between := evictions (evicted.step (.push third 0 7)).2.2
    create settings false = .ok start ∧ (start.run calls).1.evictedIds = [9] ∧
      ((start.run calls).1.push third 0 9).2.1 = .rejected .evicted ∧
      between = [8] ∧ 1 ≤ (between.filter (· ≠ 7)).length := by
  intro settings packet second third start opened evicted calls between
  have hstart : create settings false = .ok start := rfl
  have hhistory : evictions ((start.trail calls).flatMap Step.signals) = [7, 8, 9] := by decide
  obtain ⟨hids, -, -, -, hanswers, hreopened⟩ :=
    memory_is_last_evictions hstart (show settings.maxInFlight = some 1 from rfl) calls
  have hlast : [7, 8, 9].rtake 1 = [(9 : UInt32)] := by decide
  rw [hhistory, hlast] at hids hanswers
  have hsplit : start.trail calls =
      [start.perform (.push packet 0 5)] ++ opened.perform (.push second 0 6) ::
        ([evicted.perform (.push third 0 7)] ++
          [(evicted.step (.push third 0 7)).1.perform (.push packet 0 8)]) := by
    simp only [calls, opened, evicted, trail_cons, trail_nil, List.cons_append, List.nil_append]
  have hothers := hreopened _ _ _ _ [] 7 2 0 hsplit (by decide) (by decide)
  rw [List.flatMap_singleton, signals_perform] at hothers
  exact ⟨hstart, hids, ((hanswers third 0 9).1).mpr (by decide), by decide, hothers⟩

end Reassembly

end Framecast
