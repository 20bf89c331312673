import Framecast.Assembly.Words
import Framecast.Proofs.Assembly.Arrangement

/-!
# Access within bounds

What was written of a frame lies in its buffer, and each packet number of the frame has
an entry in both tables (`Intact`).  A push in machine words refuses its packet or stores
the payload somewhere in the buffer, so it keeps an assembly intact even where the place
of the packet is no machine word.
-/

namespace Framecast.Assembly

inductive Operation where
  | start (frameId : UInt32) (packetCount : UInt16)
  | push (delivery : Delivery)
  | reset
deriving Repr, DecidableEq

def after (assembly : Assembly) : Operation → Assembly
  | .start frameId packetCount => assembly.start frameId packetCount
  | .push delivery => (assembly.receive delivery).1
  | .reset => assembly.reset

def receive? (overflow : Overflow) (assembly : Assembly) (delivery : Delivery) :
    Option (Assembly × Outcome) :=
  assembly.push? overflow delivery.header delivery.payload delivery.gapHint

def after? (overflow : Overflow) (assembly : Assembly) : Operation → Option Assembly
  | .start frameId packetCount => assembly.start? frameId packetCount
  | .push delivery => (assembly.receive? overflow delivery).map Prod.fst
  | .reset => some assembly.reset

/-! ## What a push in machine words can do -/

theorem damage_eq_refuse (assembly : Assembly) (reason : RejectReason) (packetId : UInt16)
    (h : (Outcome.rejected reason).damages = true) :
    assembly.damage packetId = assembly.refuse reason packetId := by
  cases reason <;> simp_all [damage, refuse, Outcome.damages, Outcome.harms]

theorem refuse_of_harmless (assembly : Assembly) (reason : RejectReason) (packetId : UInt16)
    (hdamages : (Outcome.rejected reason).damages = false)
    (hharms : (Outcome.rejected reason).harms = false) :
    assembly.refuse reason packetId = assembly := by
  simp [refuse, hdamages, hharms]

theorem of_damage? {assembly next : Assembly} {packetId : UInt16} {outcome outcome' : Outcome}
    (h : (assembly.damage? packetId).map (·, outcome) = some (next, outcome')) :
    next = assembly.damage packetId ∧ outcome' = outcome ∧
      next.damage? packetId = some next := by
  unfold damage? at h
  split at h
  · rename_i hrange
    simp only [Option.map_some, Option.some.injEq, Prod.mk.injEq] at h
    obtain ⟨rfl, rfl⟩ := h
    have hrange' : packetId.toNat < (assembly.damage packetId).damaged.size := by
      simpa [damage] using hrange
    refine ⟨rfl, rfl, ?_⟩
    rw [damage?, if_pos hrange']
    simp [damage]
  · exact absurd h (by simp)

/-- A place that is not in the buffer is told so as often as it is asked for. -/
theorem of_place? {overflow : Overflow} {assembly next : Assembly} {packetId : UInt16}
    {payload : Bytes} {gapHint : Bool} {outcome : Outcome}
    (h : assembly.place? overflow packetId payload gapHint = some (next, outcome)) :
    (next = assembly.damage packetId ∧ outcome = .rejected .overflow ∧
        next.place? overflow packetId payload gapHint = some (next, .rejected .overflow)) ∨
      ∃ offset, packetId.toNat < assembly.present.size ∧
        offset + payload.length ≤ assembly.capacity ∧
          next = assembly.storeAt offset packetId payload gapHint ∧ outcome = .accepted := by
  unfold place? at h
  obtain ⟨offset, hoffset, h⟩ := Option.bind_eq_some_iff.mp h
  obtain ⟨finish, hfinish, h⟩ := Option.bind_eq_some_iff.mp h
  split at h
  · rename_i hcapacity
    obtain ⟨rfl, rfl, hagain⟩ := of_damage? h
    have hcapacity' : (assembly.damage packetId).capacity < finish := hcapacity
    have hoffset' : overflow.word? (packetId.toNat * (assembly.damage packetId).stride) =
      some offset := hoffset
    refine Or.inl ⟨rfl, rfl, ?_⟩
    rw [place?, hoffset', Option.bind_eq_bind, Option.bind_some, hfinish, Option.bind_some,
      if_pos hcapacity', hagain]
    rfl
  · unfold storeAt? at h
    split at h
    · rename_i hroom
      obtain ⟨horder, hcapacity, hlength, hrange⟩ := hroom
      simp only [Option.map_some, Option.some.injEq, Prod.mk.injEq] at h
      obtain ⟨rfl, rfl⟩ := h
      exact Or.inr ⟨offset, hrange, by omega, rfl, rfl⟩
    · exact absurd h (by simp)

/-- A packet is refused, or its payload is stored somewhere in the buffer. -/
inductive Settles (assembly : Assembly) (delivery : Delivery) : Assembly → Outcome → Prop
  | refused (reason : RejectReason) :
      Settles assembly delivery (assembly.refuse reason delivery.id) (.rejected reason)
  | stored (offset : Nat) (hrange : delivery.id.toNat < assembly.present.size)
      (hfits : offset + delivery.payload.length ≤ assembly.capacity) :
      Settles assembly delivery
        (assembly.storeAt offset delivery.id delivery.payload delivery.gapHint) .accepted

theorem settles_of_receive? {overflow : Overflow} {assembly next : Assembly}
    {delivery : Delivery} {outcome : Outcome}
    (h : assembly.receive? overflow delivery = some (next, outcome)) :
    assembly.Settles delivery next outcome := by
  have hharmless : ∀ reason : RejectReason, (Outcome.rejected reason).damages = false →
      (Outcome.rejected reason).harms = false →
      assembly.Settles delivery assembly (.rejected reason) := by
    intro reason hdamages hharms
    have hrefused : assembly.Settles delivery _ _ := .refused reason
    rwa [refuse_of_harmless assembly reason delivery.id hdamages hharms] at hrefused
  unfold receive? push? at h
  split at h
  · cases h
    exact hharmless .notStarted rfl rfl
  split at h
  · cases h
    exact hharmless .wrongFrame rfl rfl
  split at h
  · cases h
    have hrefused : assembly.Settles delivery _ _ := .refused .outOfRange
    simpa [refuse, Outcome.damages, Outcome.harms] using hrefused
  split at h
  · exact absurd h (by simp)
  · cases h
    exact hharmless .duplicate rfl rfl
  split at h
  · obtain ⟨rfl, rfl, -⟩ := of_damage? h
    rw [← Delivery.id, damage_eq_refuse assembly .oversize delivery.id rfl]
    exact .refused .oversize
  · obtain ⟨rfl, rfl, -⟩ | ⟨offset, hrange, hfits, rfl, rfl⟩ := of_place? h
    · rw [← Delivery.id, damage_eq_refuse assembly .overflow delivery.id rfl]
      exact .refused .overflow
    · exact .stored offset hrange hfits

/-- A packet that comes twice in a row leaves the state that it leaves when it comes once. -/
theorem receive?_receive? {overflow : Overflow} {assembly next : Assembly} {delivery : Delivery}
    {outcome : Outcome} (h : assembly.receive? overflow delivery = some (next, outcome)) :
    ∃ again, next.receive? overflow delivery = some (next, again) := by
  have hsame := h
  unfold receive? push? at h
  split at h
  · cases h
    exact ⟨_, hsame⟩
  rename_i hphase
  split at h
  · cases h
    exact ⟨_, hsame⟩
  rename_i hframe
  split at h
  · rename_i hrange
    cases h
    exact ⟨.rejected .outOfRange, by simp [receive?, push?, hphase, hframe, hrange]⟩
  rename_i hrange
  split at h
  · exact absurd h (by simp)
  · cases h
    exact ⟨_, hsame⟩
  rename_i hentry
  split at h
  · rename_i hlength
    obtain ⟨rfl, rfl, hagain⟩ := of_damage? h
    refine ⟨.rejected .oversize, ?_⟩
    simpa [receive?, push?, damage, hphase, hframe, hrange, hentry, hlength] using hagain
  · rename_i hlength
    obtain ⟨rfl, rfl, hagain⟩ | ⟨offset, hlt, -, rfl, rfl⟩ := of_place? h
    · refine ⟨.rejected .overflow, ?_⟩
      simpa [receive?, push?, damage, hphase, hframe, hrange, hentry, hlength] using hagain
    · -- the entry of the packet is set now
      have hstored : (assembly.present.setIfInBounds delivery.header.packetId.toNat true)[
          delivery.header.packetId.toNat]? = some true :=
        Array.getElem?_setIfInBounds_self_of_lt hlt
      refine ⟨.rejected .duplicate, ?_⟩
      simp [receive?, push?, storeAt, hphase, hframe, hrange, hstored]

/-! ## Assemblies whose bounds hold -/

/-- What was written lies in the buffer, and each packet has an entry in both tables. -/
structure Intact (assembly : Assembly) : Prop where
  dirty_le : assembly.dirty ≤ assembly.capacity
  frameSize_le : assembly.frameSize ≤ assembly.capacity
  damaged_size : assembly.damaged.size = assembly.present.size

theorem intact_new (capacity stride : Nat) : (new capacity stride).Intact where
  dirty_le := Nat.zero_le _
  frameSize_le := Nat.zero_le _
  damaged_size := rfl

theorem intact_start (assembly : Assembly) (frameId : UInt32) (packetCount : UInt16) :
    (assembly.start frameId packetCount).Intact where
  dirty_le := Nat.zero_le _
  frameSize_le := Nat.zero_le _
  damaged_size := by simp only [start, Array.size_replicate]

section
variable {assembly : Assembly} (h : assembly.Intact)
include h

theorem Intact.reset : assembly.reset.Intact where
  dirty_le := h.dirty_le
  frameSize_le := Nat.zero_le _
  damaged_size := rfl

theorem Intact.refuse (reason : RejectReason) (packetId : UInt16) :
    (assembly.refuse reason packetId).Intact where
  dirty_le := h.dirty_le
  frameSize_le := h.frameSize_le
  damaged_size := by
    simp only [Assembly.refuse]
    split
    · rw [Array.size_setIfInBounds, h.damaged_size]
    · exact h.damaged_size

theorem Intact.storeAt {offset : Nat} (packetId : UInt16) {payload : Bytes} (gapHint : Bool)
    (hfinish : offset + payload.length ≤ assembly.capacity) :
    (assembly.storeAt offset packetId payload gapHint).Intact where
  dirty_le := Nat.max_le.mpr ⟨h.dirty_le, hfinish⟩
  frameSize_le := Nat.max_le.mpr ⟨h.frameSize_le, hfinish⟩
  damaged_size := by
    simp only [Assembly.storeAt, Array.size_setIfInBounds]
    exact h.damaged_size

theorem Intact.of_settles {delivery : Delivery} {next : Assembly} {outcome : Outcome}
    (hsettles : assembly.Settles delivery next outcome) : next.Intact := by
  cases hsettles with
  | refused reason => exact h.refuse reason delivery.id
  | stored offset _ hfits => exact h.storeAt delivery.id delivery.gapHint hfits

theorem Intact.receive (delivery : Delivery) : (assembly.receive delivery).1.Intact := by
  have hjudged := assembly.judged_verdict delivery.header delivery.payload
  rw [← judge] at hjudged
  rw [receive_eq]
  generalize assembly.judge delivery = outcome at hjudged
  cases outcome with
  | accepted =>
      cases hjudged with
      | accepted _ _ _ hfinish => exact h.storeAt delivery.id delivery.gapHint hfinish
  | rejected reason =>
      rw [carryOut_rejected]
      exact h.refuse reason delivery.id

theorem Intact.after (operation : Operation) : (assembly.after operation).Intact := by
  cases operation with
  | start frameId packetCount => exact assembly.intact_start frameId packetCount
  | push delivery => exact h.receive delivery
  | reset => exact h.reset

theorem Intact.of_after? {overflow : Overflow} {operation : Operation} {next : Assembly}
    (hafter : assembly.after? overflow operation = some next) : next.Intact := by
  cases operation with
  | start frameId packetCount =>
      rw [after?, start?, if_pos h.dirty_le] at hafter
      cases hafter
      exact assembly.intact_start frameId packetCount
  | push delivery =>
      obtain ⟨⟨settled, outcome⟩, hreceive, rfl⟩ := Option.map_eq_some_iff.mp hafter
      exact h.of_settles (settles_of_receive? hreceive)
  | reset =>
      cases hafter
      exact h.reset

end

/-- Whatever is done in machine words to an intact assembly, it stays intact. -/
theorem Intact.of_foldlM_after? {overflow : Overflow} {assembly last : Assembly}
    (h : assembly.Intact) {operations : List Operation}
    (hrun : operations.foldlM (after? overflow) assembly = some last) : last.Intact := by
  induction operations generalizing assembly with
  | nil =>
      cases hrun
      exact h
  | cons operation rest ih =>
      rw [List.foldlM_cons] at hrun
      obtain ⟨next, hnext, hrest⟩ := Option.bind_eq_some_iff.mp hrun
      exact ih (h.of_after? hnext) hrest

end Framecast.Assembly
