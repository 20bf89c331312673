import Framecast.Proofs.Reassembly.History

/-!
# Packets that are let in fit their frames

A packet that the receiving side takes from a datagram is no longer than the largest
payload of the settings, which the settings make no longer than a stride and a frame.
Every flight receives the frame under whose id it stands, in a buffer of that stride.
So a packet that was let in is never refused as too long for its place, as one of
another frame, or because no frame had started; and the first packet of a frame that
it opens is always accepted.
-/

namespace Framecast

open Framecast.Assembly (Event Outcome Settings)

/-- The receiving side takes the packet from some datagram; what gap it then notes is open. -/
def Reception.Packet.Admitted (limit : Nat) (packet : Reception.Packet) : Prop :=
  ∃ data taken, ofDatagram data limit = .ok taken ∧ packet = taken.withGap packet.gapBefore

theorem Reception.Packet.Admitted.length_le {limit : Nat} {packet : Reception.Packet}
    (h : packet.Admitted limit) : packet.payload.length ≤ limit := by
  obtain ⟨data, taken, htaken, hpacket⟩ := h
  have hpayload : packet.payload = taken.payload := by
    rw [hpacket]
    rfl
  rw [ofDatagram] at htaken
  split at htaken
  · exact absurd htaken (by simp)
  · split at htaken
    · rename_i hfits
      rw [hpayload, ← Except.ok.inj htaken]
      exact Nat.le_trans hfits (Nat.min_le_left _ _)
    · exact absurd htaken (by simp)

namespace Assembly

/-- Outcomes of packets that were sent to a place where they do not belong. -/
def misfits : List Outcome :=
  [.rejected .oversize, .rejected .wrongFrame, .rejected .notStarted]

section
variable {assembly : Assembly} {header : Datagram.Header} {payload : Bytes}

/-- A packet that belongs to the frame and fits a stride is no misfit. -/
theorem verdict_not_mem_misfits (hreceiving : assembly.phase = .receiving)
    (hframe : header.frameId = assembly.frameId) (hfits : payload.length ≤ assembly.stride) :
    assembly.verdict header payload ∉ misfits := by
  have hjudged := assembly.judged_verdict header payload
  generalize assembly.verdict header payload = outcome at hjudged
  cases hjudged with
  | notStarted hphase =>
      rw [hreceiving] at hphase
      exact absurd hphase (by decide)
  | wrongFrame _ hother => exact absurd hframe hother
  | oversize _ hlength => exact absurd hlength (Nat.not_lt.mpr hfits)
  | outOfRange => decide
  | duplicate => decide
  | overflow => decide
  | accepted => decide

/-- A frame that has just started takes the packet that is the first in it. -/
theorem Ready.verdict_start {capacity stride : Nat} (h : Ready capacity stride assembly)
    (hfirst : header.packetId = 0) (hcount : 1 ≤ header.packetCount.toNat)
    (hfits : payload.length ≤ stride) (hroom : stride ≤ capacity) :
    (assembly.start header.frameId header.packetCount).verdict header payload = .accepted := by
  have hreflects := h.reflects_start header.frameId header.packetCount
  have hready := h.start header.frameId header.packetCount
  have hsize : (assembly.start header.frameId header.packetCount).present.size =
      header.packetCount.toNat := hreflects.present_size
  have hjudged := (assembly.start header.frameId header.packetCount).judged_verdict header payload
  generalize (assembly.start header.frameId header.packetCount).verdict header payload = outcome
    at hjudged
  cases hjudged with
  | notStarted hphase => exact absurd hphase (by simp [Assembly.start])
  | wrongFrame _ hother => exact absurd rfl hother
  | outOfRange hrange =>
      rw [hsize, hfirst] at hrange
      exact absurd hrange (Nat.not_le.mpr hcount)
  | duplicate hpresent =>
      exact absurd ((hreflects.hasPacket_iff header.packetId).mp hpresent) (by simp [accepted])
  | oversize _ hlength =>
      rw [hready.stride_eq] at hlength
      omega
  | overflow _ hfinish =>
      rw [hready.capacity_eq, hfirst] at hfinish
      simp at hfinish
      omega
  | accepted => rfl

end

end Assembly

namespace Reassembly

structure Suits (settings : Settings) (packet : Reception.Packet) (outcome : Outcome)
    (signals : List Signal) : Prop where
  not_misfit : outcome ∉ Assembly.misfits
  evicted_capped : outcome = .rejected .evicted → settings.maxInFlight ≠ none
  first_accepted : ∀ count drops, .started packet.frameId count drops ∈ Signal.events signals →
    packet.header.packetId = 0 → 1 ≤ packet.header.packetCount.toNat → outcome = .accepted

section
variable {settings : Settings} {reportsMissing : Bool}

theorem Turn.suits {packet : Reception.Packet} {drops now : Nat} {before after : Option Flight}
    {reply : Reply} {signals : List Signal}
    (h : Turn settings reportsMissing packet.frameId (.push packet drops now) before reply
      signals after)
    (hvalid : Valid settings) (hfits : packet.payload.length ≤ settings.maxPayload)
    (hbefore : ∀ flight ∈ before, ∃ life : Life,
      life.Describes settings packet.frameId flight) :
    ∃ outcome, reply = .outcome outcome ∧ Suits settings packet outcome signals := by
  have hstride : packet.payload.length ≤ settings.stride :=
    Nat.le_trans hfits hvalid.maxPayload_le_stride
  cases h with
  | passed hother => exact absurd rfl hother
  | retired hother => exact absurd rfl hother
  | evicted hother => exact absurd rfl hother
  | refused _ hcapped =>
      exact ⟨_, rfl, by decide, fun _ => hcapped, by simp⟩
  | opened _ hready hflight houtcome =>
      subst hflight houtcome
      have hopened := hready.start packet.header.frameId packet.header.packetCount
      refine ⟨_, rfl, ?_, ?_, ?_⟩
      · exact Assembly.verdict_not_mem_misfits rfl rfl (hopened.stride_eq ▸ hstride)
      · exact fun hevicted => absurd hevicted (Assembly.verdict_ne_evicted _ _ _)
      · intro count drops _ hfirst hcount
        exact hready.verdict_start hfirst hcount hstride hvalid.stride_le_maxFrameSize
  | @received _ _ _ flight outcome _ houtcome =>
      obtain ⟨life, hlife⟩ := hbefore flight rfl
      refine ⟨outcome, rfl, ?_, ?_, ?_⟩
      · rw [houtcome]
        exact Assembly.verdict_not_mem_misfits hlife.reflects.receiving hlife.id_eq.symm
          (hlife.ready.stride_eq ▸ hstride)
      · rw [houtcome]
        exact fun hevicted => absurd hevicted (Assembly.verdict_ne_evicted _ _ _)
      · intro count drops hstarted
        exact absurd hstarted (by cases outcome <;> simp [packetEvent])

/--
Under sound settings, no push of a packet that the receiving side let in is ever
answered as too long, of another frame or not started, whatever happened before.  It
is answered as evicted only under a limit of frames in flight; and when it opens its
frame and is the first packet there, it is accepted.
-/
theorem admitted_packets_are_no_misfits {start : Reassembly}
    (hstart : create settings reportsMissing = .ok start) (calls : List Call) :
    ∀ step ∈ start.trail calls, ∀ packet drops now, step.call = .push packet drops now →
      packet.Admitted settings.maxPayload →
        ∃ outcome, step.reply = .outcome outcome ∧
          outcome ≠ .rejected .oversize ∧ outcome ≠ .rejected .wrongFrame ∧
          outcome ≠ .rejected .notStarted ∧
          (outcome = .rejected .evicted → settings.maxInFlight ≠ none) ∧
          ∀ count drops', .started packet.frameId count drops' ∈ Signal.events step.signals →
            packet.header.packetId = 0 → 1 ≤ packet.header.packetCount.toNat →
              outcome = .accepted := by
  intro step hstep packet drops now hcall hadmitted
  obtain ⟨earlier, later, hsplit⟩ := List.append_of_mem hstep
  obtain ⟨before, call, rest, -, -, rfl, -⟩ := exists_of_trail_eq hsplit
  obtain rfl : call = .push packet drops now := hcall
  have hsound := (sound_of_create hstart).run before
  have hsettings : (start.run before).1.settings = settings :=
    hsound.settings_eq.trans (settings_of_create hstart)
  have hturn := (hsound.sound.turn (.push packet drops now) packet.frameId).2
  rw [hsettings] at hturn
  obtain ⟨outcome, hreply, hsuits⟩ := hturn.suits (valid_of_create hstart) hadmitted.length_le
    fun flight hflight =>
      (exists_life_of_find? hstart hflight).imp fun _ hlife => hlife.2
  obtain ⟨hoversize, hwrong, hnotStarted⟩ :
      outcome ≠ .rejected .oversize ∧ outcome ≠ .rejected .wrongFrame ∧
        outcome ≠ .rejected .notStarted := by
    simpa [Assembly.misfits] using hsuits.not_misfit
  refine ⟨outcome, hreply, hoversize, hwrong, hnotStarted, hsuits.evicted_capped, ?_⟩
  intro count drops' hstarted
  refine hsuits.first_accepted count drops' ?_
  rw [Signal.events_about]
  exact List.mem_filter.mpr ⟨hstarted, decide_eq_true rfl⟩

end

/-- A packet opens its frame in the place of another one, whose late packet is then refused. -/
theorem admitted_packets_are_no_misfits_evicting :
    let settings := { Settings.default with
      maxFrameSize := 16, stride := 4, maxPayload := 4, maxInFlight := some 1 }
    let older : Reception.Packet := ⟨⟨7, 0, 2, 1⟩, [10], false, rfl, by decide⟩
    let newer : Reception.Packet := ⟨⟨8, 0, 1, 4⟩, [20, 30, 40, 50], true, rfl, by decide⟩
    let late : Reception.Packet := ⟨⟨7, 1, 2, 1⟩, [60], false, rfl, by decide⟩
    let start := initial settings false
    let calls : List Call := [.push older 0 5, .push newer 0 6, .push late 0 7]
    let opening := (start.run [.push older 0 5]).1.perform (.push newer 0 6)
    let refusal := (start.run [.push older 0 5, .push newer 0 6]).1.perform (.push late 0 7)
    create settings false = .ok start ∧ start.trail calls =
        [start.perform (.push older 0 5), opening, refusal] ∧
      newer.Admitted settings.maxPayload ∧ late.Admitted settings.maxPayload ∧
      .started 8 1 0 ∈ Signal.events opening.signals ∧ opening.reply = .outcome .accepted ∧
      refusal.reply = .outcome (.rejected .evicted) ∧ settings.maxInFlight ≠ none := by
  intro settings older newer late start calls opening refusal
  have hstart : create settings false = .ok start := rfl
  have hnewer : newer.Admitted settings.maxPayload :=
    ⟨[8, 0, 0, 0, 0, 0, 1, 0, 4, 0, 0, 0, 20, 30, 40, 50],
      ⟨⟨8, 0, 1, 4⟩, [20, 30, 40, 50], false, rfl, by decide⟩, by cbv, rfl⟩
  have hlate : late.Admitted settings.maxPayload :=
    ⟨[7, 0, 0, 0, 1, 0, 2, 0, 1, 0, 0, 0, 60, 99], late, by cbv, rfl⟩
  have hstarted : .started 8 1 0 ∈ Signal.events opening.signals := by decide
  have hrefusal : refusal.reply = .outcome (.rejected .evicted) := by decide
  obtain ⟨answer, hopening, -, -, -, -, hfirst⟩ := admitted_packets_are_no_misfits hstart calls
    opening (List.mem_cons_of_mem _ List.mem_cons_self) newer 0 6 rfl hnewer
  obtain ⟨refused, hanswer, -, -, -, hcapped, -⟩ := admitted_packets_are_no_misfits hstart calls
    refusal (List.mem_cons_of_mem _ (List.mem_cons_of_mem _ List.mem_cons_self)) late 0 7 rfl
    hlate
  rw [hfirst 1 0 hstarted rfl (by decide)] at hopening
  rw [hanswer] at hrefusal
  exact ⟨hstart, rfl, hnewer, hlate, hstarted, hopening, hanswer.trans hrefusal,
    hcapped (Reply.outcome.inj hrefusal)⟩

end Reassembly

end Framecast
