import Framecast.Proofs.Reassembly.Departure

/-!
# What a call does to one frame

Seen from a single frame, a call does one of six things: it passes the frame by,
retires it, evicts it, refuses a late packet of it, opens it, or hands it a
packet.  `Turn` lists the six with everything they show, and `Sound.turn` says
that every call from a sound state is one of them; whatever is known about single
frames follows from these cases without a look at the state machine.
-/

namespace Framecast

open Framecast.Assembly (Event Frame RetireReason Settings)

namespace Reassembly

/-! ## Calls -/

namespace Call

def isPush : Call → Bool
  | .push .. => true
  | _ => false

def frameId? : Call → Option UInt32
  | .push packet _ _ => some packet.frameId
  | _ => none

def drops : Call → Nat
  | .push _ drops _ => drops
  | .sweep drops _ => drops
  | .drain drops => drops

/-- Why a call retires a flight, if it does so by what it asks for. -/
def dismisses (settings : Settings) : Call → Flight → Option RetireReason
  | .push .., _ => none
  | .sweep _ now, flight => flight.due? settings now
  | .drain _, _ => some .shutdown

theorem frameId?_push_ne {packet : Reception.Packet} {frameId : UInt32}
    (h : packet.frameId ≠ frameId) (drops now : Nat) :
    (push packet drops now).frameId? ≠ some frameId :=
  fun hown => h (Option.some.inj hown)

end Call

/-! ## Sound states -/

structure Sound (reassembly : Reassembly) : Prop where
  ascending : Ascending reassembly.flights
  flights_ready : ∀ flight ∈ reassembly.flights,
    flight.assembly.Ready reassembly.settings.maxFrameSize reassembly.settings.stride
  spares_ready : ∀ spare ∈ reassembly.spares,
    spare.Ready reassembly.settings.maxFrameSize reassembly.settings.stride
  evictedIds_eq : reassembly.settings.maxInFlight = none → reassembly.evictedIds = []

structure Succeeds (before after : Reassembly) : Prop where
  settings_eq : after.settings = before.settings
  reportsMissing_eq : after.reportsMissing = before.reportsMissing
  sound : after.Sound

theorem Succeeds.trans {before middle after : Reassembly} (h : Succeeds before middle)
    (h' : Succeeds middle after) : Succeeds before after where
  settings_eq := h'.settings_eq.trans h.settings_eq
  reportsMissing_eq := h'.reportsMissing_eq.trans h.reportsMissing_eq
  sound := h'.sound

theorem Succeeds.capped {before after : Reassembly} (h : Succeeds before after)
    (hcapped : before.settings.maxInFlight ≠ none) : after.settings.maxInFlight ≠ none := by
  rw [h.settings_eq]
  exact hcapped

theorem Sound.refl_succeeds {reassembly : Reassembly} (h : reassembly.Sound) :
    Succeeds reassembly reassembly := ⟨rfl, rfl, h⟩

theorem sound_initial (settings : Settings) (reportsMissing : Bool) :
    (initial settings reportsMissing).Sound where
  ascending := List.Pairwise.nil
  flights_ready := by simp [initial]
  spares_ready := by simp [initial]
  evictedIds_eq := fun _ => rfl

theorem Flight.ready_receive {capacity stride : Nat} {flight : Flight}
    (h : flight.assembly.Ready capacity stride) (packet : Reception.Packet) (now : Nat) :
    (flight.receive packet now).assembly.Ready capacity stride :=
  h.push packet.header packet.payload packet.gapBefore

/-- Flights that leave a sound state leave a sound state behind. -/
theorem Sound.succeeds_retireAll {reassembly : Reassembly} (h : reassembly.Sound) (drops : Nat)
    {leaving : List (Flight × RetireReason)}
    (hleaving : ∀ entry ∈ leaving, entry.1.assembly.Ready
      reassembly.settings.maxFrameSize reassembly.settings.stride) :
    Succeeds reassembly (retireAll drops leaving reassembly).1 := by
  obtain ⟨counters, spares, hstate, hspares⟩ := retireAll_frame drops leaving reassembly
  rw [hstate]
  refine ⟨rfl, rfl, ⟨h.ascending, h.flights_ready, ?_, h.evictedIds_eq⟩⟩
  intro spare hmem
  rcases hspares spare hmem with hold | ⟨entry, hentry, rfl⟩
  · exact h.spares_ready spare hold
  · exact (hleaving entry hentry).reset

theorem find?_retireAll (drops : Nat) (leaving : List (Flight × RetireReason))
    (reassembly : Reassembly) (frameId : UInt32) :
    (retireAll drops leaving reassembly).1.find? frameId = reassembly.find? frameId := by
  obtain ⟨counters, spares, hstate, -⟩ := retireAll_frame drops leaving reassembly
  rw [hstate]
  rfl

theorem Sound.filter {reassembly : Reassembly} (h : reassembly.Sound)
    (keep : Flight → Bool) :
    { reassembly with flights := reassembly.flights.filter keep }.Sound where
  ascending := h.ascending.filter keep
  flights_ready := fun flight hmem => h.flights_ready flight (List.mem_filter.mp hmem).1
  spares_ready := h.spares_ready
  evictedIds_eq := h.evictedIds_eq

/-! ## Making room -/

/-- A frame is left alone, or it is evicted and tells so. -/
def Displaced (before after : Reassembly) (signals : List Signal) (drops : Nat)
    (frameId : UInt32) : Prop :=
  (after.find? frameId = before.find? frameId ∧ Signal.about frameId signals = []) ∨
    ∃ flight, before.find? frameId = some flight ∧ after.find? frameId = none ∧
      Signal.about frameId signals =
        retireSignals before.reportsMissing flight .evicted drops

theorem Displaced.of_absent {before after : Reassembly} {signals : List Signal} {drops : Nat}
    {frameId : UInt32} (h : Displaced before after signals drops frameId)
    (habsent : before.find? frameId = none) :
    after.find? frameId = none ∧ Signal.about frameId signals = [] := by
  rcases h with ⟨hsame, hsilent⟩ | ⟨flight, hfound, -, -⟩
  · exact ⟨hsame.trans habsent, hsilent⟩
  · rw [habsent] at hfound
    exact absurd hfound (by simp)

def withoutEvicted (reassembly : Reassembly) (limit : Nat) (flight : Flight) : Reassembly :=
  { reassembly with
    flights := reassembly.flights.filter fun other => other.id ≠ flight.id
    counters := { reassembly.counters with evicted := reassembly.counters.evicted + 1 }
    evictedIds := remember limit flight.id reassembly.evictedIds }

theorem evictOldest_of_some {reassembly : Reassembly} {flight : Flight}
    (h : oldestFlight reassembly.flights = some flight) (limit drops : Nat) :
    reassembly.evictOldest limit drops =
      retireAll drops [(flight, .evicted)] (reassembly.withoutEvicted limit flight) := by
  rw [evictOldest, h]
  rfl

theorem Sound.withoutEvicted {reassembly : Reassembly} (h : reassembly.Sound)
    (hcapped : reassembly.settings.maxInFlight ≠ none) (limit : Nat) (flight : Flight) :
    (reassembly.withoutEvicted limit flight).Sound where
  ascending := h.ascending.filter _
  flights_ready := fun other hmem => h.flights_ready other (List.mem_filter.mp hmem).1
  spares_ready := h.spares_ready
  evictedIds_eq := fun huncapped => absurd huncapped hcapped

theorem Sound.find?_withoutEvicted {reassembly : Reassembly} (h : reassembly.Sound)
    (limit : Nat) (flight : Flight) (frameId : UInt32) :
    (reassembly.withoutEvicted limit flight).find? frameId =
      if flight.id = frameId then none else reassembly.find? frameId := by
  have hfind : (reassembly.withoutEvicted limit flight).find? frameId =
      (reassembly.find? frameId).filter fun other => other.id ≠ flight.id :=
    h.ascending.lookup_filter _ frameId
  rw [hfind]
  cases hother : reassembly.find? frameId with
  | none => simp
  | some other =>
      have hid := id_of_lookup hother
      by_cases hsame : flight.id = frameId
      · simp [Option.filter, hid, hsame]
      · simp [Option.filter, hid, hsame, Ne.symm hsame]

theorem Sound.displaced_evictOldest {reassembly : Reassembly} (h : reassembly.Sound)
    (hcapped : reassembly.settings.maxInFlight ≠ none) (limit drops : Nat)
    (frameId : UInt32) :
    Succeeds reassembly (reassembly.evictOldest limit drops).1 ∧
      Displaced reassembly (reassembly.evictOldest limit drops).1
        (reassembly.evictOldest limit drops).2 drops frameId := by
  cases holdest : oldestFlight reassembly.flights with
  | none =>
      rw [evictOldest, holdest]
      exact ⟨h.refl_succeeds, Or.inl ⟨rfl, rfl⟩⟩
  | some flight =>
      have hmem := oldestFlight_mem holdest
      have hleft := h.withoutEvicted hcapped limit flight
      rw [evictOldest_of_some holdest]
      constructor
      · have hout : Succeeds reassembly (reassembly.withoutEvicted limit flight) :=
          ⟨rfl, rfl, hleft⟩
        refine hout.trans (hleft.succeeds_retireAll drops ?_)
        intro entry hentry
        rw [List.mem_singleton.mp hentry]
        exact h.flights_ready flight hmem
      · rw [Displaced, find?_retireAll, h.find?_withoutEvicted, signals_retireAll,
          List.flatMap_singleton, about_retireSignals]
        by_cases hid : flight.id = frameId
        · have hown : reassembly.find? frameId = some flight :=
            hid ▸ h.ascending.lookup_mem hmem
          exact Or.inr ⟨flight, hown, if_pos hid, if_pos hid⟩
        · exact Or.inl ⟨if_neg hid, if_neg hid⟩

theorem evictMany_succ (limit drops count : Nat) (reassembly : Reassembly) :
    evictMany limit drops (count + 1) reassembly =
      ((evictMany limit drops count (reassembly.evictOldest limit drops).1).1,
        (reassembly.evictOldest limit drops).2 ++
          (evictMany limit drops count (reassembly.evictOldest limit drops).1).2) := rfl

theorem Sound.displaced_evictMany {reassembly : Reassembly} (h : reassembly.Sound)
    (hcapped : reassembly.settings.maxInFlight ≠ none) (limit drops count : Nat)
    (frameId : UInt32) :
    Succeeds reassembly (evictMany limit drops count reassembly).1 ∧
      Displaced reassembly (evictMany limit drops count reassembly).1
        (evictMany limit drops count reassembly).2 drops frameId := by
  induction count generalizing reassembly with
  | zero => exact ⟨h.refl_succeeds, Or.inl ⟨rfl, rfl⟩⟩
  | succ count ih =>
      obtain ⟨hfirst, hone⟩ := h.displaced_evictOldest hcapped limit drops frameId
      obtain ⟨hrest, hmany⟩ := ih hfirst.sound (hfirst.capped hcapped)
      rw [evictMany_succ]
      refine ⟨hfirst.trans hrest, ?_⟩
      rcases hone with ⟨hsame, hsilent⟩ | ⟨flight, hfound, hgone, htold⟩
      · rcases hmany with ⟨hsame', hsilent'⟩ | ⟨flight, hfound, hgone, htold⟩
        · left
          exact ⟨hsame'.trans hsame, by simp [hsilent, hsilent']⟩
        · right
          refine ⟨flight, hsame ▸ hfound, hgone, ?_⟩
          rw [Signal.about_append, hsilent, htold, hfirst.reportsMissing_eq, List.nil_append]
      · rcases hmany with ⟨hsame', hsilent'⟩ | ⟨other, hfound', -, -⟩
        · right
          refine ⟨flight, hfound, hsame'.trans hgone, ?_⟩
          rw [Signal.about_append, htold, hsilent', List.append_nil]
        · rw [hgone] at hfound'
          exact absurd hfound' (by simp)

/-- Room is made under a limit only, and a frame is evicted at most once for it. -/
theorem Sound.displaced_makeRoom {reassembly : Reassembly} (h : reassembly.Sound) (drops : Nat)
    (frameId : UInt32) :
    Succeeds reassembly (reassembly.makeRoom drops).1 ∧
      Displaced reassembly (reassembly.makeRoom drops).1 (reassembly.makeRoom drops).2 drops
        frameId ∧
      (reassembly.settings.maxInFlight = none →
        reassembly.makeRoom drops = (reassembly, [])) := by
  rw [makeRoom]
  cases hlimit : reassembly.settings.maxInFlight with
  | none => exact ⟨h.refl_succeeds, Or.inl ⟨rfl, rfl⟩, fun _ => rfl⟩
  | some limit =>
      have hcapped : reassembly.settings.maxInFlight ≠ none := by simp [hlimit]
      obtain ⟨hsucceeds, hdisplaced⟩ :=
        h.displaced_evictMany hcapped limit drops (reassembly.flights.length + 1 - limit) frameId
      exact ⟨hsucceeds, hdisplaced, by simp⟩

/-! ## Opening and delivering -/

theorem Sound.takeBuffer_ready {reassembly : Reassembly} (h : reassembly.Sound) :
    reassembly.takeBuffer.1.Ready reassembly.settings.maxFrameSize
      reassembly.settings.stride ∧
      ∀ spare ∈ reassembly.takeBuffer.2, spare ∈ reassembly.spares := by
  rw [takeBuffer]
  cases hspares : reassembly.spares with
  | nil => exact ⟨Assembly.ready_new _ _, by simp⟩
  | cons spare rest =>
      refine ⟨h.spares_ready spare ?_, fun other hmem => List.mem_cons_of_mem spare hmem⟩
      rw [hspares]
      exact List.mem_cons_self

theorem Sound.openFrame_spec {reassembly : Reassembly} (h : reassembly.Sound)
    {header : Datagram.Header} (habsent : reassembly.find? header.frameId = none)
    (drops now : Nat) :
    Succeeds reassembly (reassembly.openFrame header drops now).1 ∧
      ∀ frameId, (reassembly.openFrame header drops now).1.find? frameId =
        if header.frameId = frameId then
          some (Flight.opened reassembly.takeBuffer.1 header drops now)
        else reassembly.find? frameId := by
  obtain ⟨hready, hspares⟩ := h.takeBuffer_ready
  let flight := Flight.opened reassembly.takeBuffer.1 header drops now
  have habsent' : lookup flight.id reassembly.flights = none := habsent
  refine ⟨⟨rfl, rfl, ⟨?_, ?_, ?_, h.evictedIds_eq⟩⟩, ?_⟩
  · exact h.ascending.insertFlight habsent'
  · intro other hmem
    rcases mem_insertFlight.mp hmem with rfl | hold
    · exact hready.start header.frameId header.packetCount
    · exact h.flights_ready other hold
  · intro spare hmem
    exact h.spares_ready spare (hspares spare hmem)
  · exact fun frameId => lookup_insertFlight habsent' frameId

theorem about_openFrame (reassembly : Reassembly) (header : Datagram.Header)
    (drops now : Nat) (frameId : UInt32) :
    Signal.about frameId (reassembly.openFrame header drops now).2 =
      if header.frameId = frameId then
        [.event (.started header.frameId header.packetCount.toNat drops)]
      else [] := by
  rw [openFrame, Signal.about_cons]
  simp [Signal.frameId?, Event.frameId]

/-- What a packet does to the flights: only that of its own frame receives it. -/
def receiveAt (packet : Reception.Packet) (now : Nat) (flight : Flight) : Flight :=
  if flight.id = packet.frameId then flight.receive packet now else flight

theorem id_receiveAt (packet : Reception.Packet) (now : Nat) (flight : Flight) :
    (receiveAt packet now flight).id = flight.id := by
  rw [receiveAt]
  split
  · exact flight.id_receive packet now
  · rfl

theorem deliver_of_some {reassembly : Reassembly} {packet : Reception.Packet}
    {flight : Flight} (h : reassembly.find? packet.frameId = some flight) (now : Nat) :
    reassembly.deliver packet now =
      ({ reassembly with
        flights := reassembly.flights.map (receiveAt packet now)
        counters := reassembly.counters.count
          (flight.assembly.verdict packet.header packet.payload) },
        flight.assembly.verdict packet.header packet.payload,
        [.event (packetEvent packet flight.assembly.expected
          (flight.assembly.verdict packet.header packet.payload))]) := by
  rw [deliver, h]
  rfl

theorem Sound.deliver_spec {reassembly : Reassembly} (h : reassembly.Sound)
    {packet : Reception.Packet} {flight : Flight}
    (hfound : reassembly.find? packet.frameId = some flight) (now : Nat) :
    Succeeds reassembly (reassembly.deliver packet now).1 ∧
      ∀ frameId, (reassembly.deliver packet now).1.find? frameId =
        if packet.frameId = frameId then some (flight.receive packet now)
        else reassembly.find? frameId := by
  rw [deliver_of_some hfound]
  refine ⟨⟨rfl, rfl, ⟨?_, ?_, h.spares_ready, h.evictedIds_eq⟩⟩, ?_⟩
  · exact h.ascending.map (id_receiveAt packet now)
  · intro other hmem
    obtain ⟨before, hbefore, rfl⟩ := List.mem_map.mp hmem
    rw [receiveAt]
    split
    · exact Flight.ready_receive (h.flights_ready before hbefore) packet now
    · exact h.flights_ready before hbefore
  · intro frameId
    have hmapped := lookup_map (id_receiveAt packet now) reassembly.flights frameId
    rw [find?_eq_lookup, hmapped]
    by_cases hframe : packet.frameId = frameId
    · rw [if_pos hframe, ← hframe, ← find?_eq_lookup, hfound, Option.map_some, receiveAt,
        if_pos (id_of_lookup hfound)]
    · rw [if_neg hframe, ← find?_eq_lookup]
      cases hother : reassembly.find? frameId with
      | none => rfl
      | some other =>
          have hne : other.id ≠ packet.frameId := by
            rw [id_of_lookup hother]
            exact fun h => hframe h.symm
          rw [Option.map_some, receiveAt, if_neg hne]

/-! ## Turns -/

/--
What a call does to one frame: the frame's flight before, the answer to the call,
the signals about the frame, and its flight afterwards.
-/
inductive Turn (settings : Settings) (reportsMissing : Bool) (frameId : UInt32) :
    Call → Option Flight → Reply → List Signal → Option Flight → Prop where
  /-- The call brings no packet of the frame and leaves it alone. -/
  | passed {call : Call} {flight? : Option Flight} {reply : Reply}
      (hother : call.frameId? ≠ some frameId)
      (hstays : ∀ flight, flight? = some flight → call.dismisses settings flight = none) :
      Turn settings reportsMissing frameId call flight? reply [] flight?
  /-- The call asks for the frame's retirement. -/
  | retired {call : Call} {flight : Flight} {reason : RetireReason} {reply : Reply}
      (hother : call.frameId? ≠ some frameId)
      (hreason : call.dismisses settings flight = some reason) :
      Turn settings reportsMissing frameId call (some flight) reply
        (retireSignals reportsMissing flight reason call.drops) none
  /-- The frame makes room for the one whose packet the call brings. -/
  | evicted {packet : Reception.Packet} {drops now : Nat} {flight : Flight} {reply : Reply}
      (hother : packet.frameId ≠ frameId) (hcapped : settings.maxInFlight ≠ none) :
      Turn settings reportsMissing frameId (.push packet drops now) (some flight) reply
        (retireSignals reportsMissing flight .evicted drops) none
  /-- The call brings a late packet of the frame, which was evicted. -/
  | refused {packet : Reception.Packet} {drops now : Nat}
      (hframe : packet.frameId = frameId) (hcapped : settings.maxInFlight ≠ none) :
      Turn settings reportsMissing frameId (.push packet drops now) none
        (.outcome (.rejected .evicted))
        [.event (.rejected frameId packet.header.packetId .evicted)] none
  /-- The call brings the packet that opens the frame. -/
  | opened {packet : Reception.Packet} {drops now : Nat} {buffer : Assembly}
      {flight : Flight} {outcome : Assembly.Outcome}
      (hframe : packet.frameId = frameId)
      (hready : buffer.Ready settings.maxFrameSize settings.stride)
      (hflight : flight = Flight.opened buffer packet.header drops now)
      (houtcome : outcome = flight.assembly.verdict packet.header packet.payload) :
      Turn settings reportsMissing frameId (.push packet drops now) none (.outcome outcome)
        [.event (.started frameId packet.header.packetCount.toNat drops),
          .event (packetEvent packet packet.header.packetCount.toNat outcome)]
        (some (flight.receive packet now))
  /-- The call brings a packet for the frame in flight. -/
  | received {packet : Reception.Packet} {drops now : Nat} {flight : Flight}
      {outcome : Assembly.Outcome} (hframe : packet.frameId = frameId)
      (houtcome : outcome = flight.assembly.verdict packet.header packet.payload) :
      Turn settings reportsMissing frameId (.push packet drops now) (some flight)
        (.outcome outcome) [.event (packetEvent packet flight.assembly.expected outcome)]
        (some (flight.receive packet now))

theorem about_packetEvent (frameId : UInt32) (packet : Reception.Packet) (expected : Nat)
    (outcome : Assembly.Outcome) :
    Signal.about frameId [.event (packetEvent packet expected outcome)] =
      if packet.frameId = frameId then [.event (packetEvent packet expected outcome)]
      else [] := by
  rw [Signal.about_cons]
  cases outcome <;> simp [Signal.frameId?, packetEvent, Event.frameId]

/-- A packet for a frame in flight goes to that frame and to no other. -/
theorem Sound.turn_deliver {reassembly : Reassembly} (h : reassembly.Sound)
    {packet : Reception.Packet} {flight : Flight}
    (hfound : reassembly.find? packet.frameId = some flight) (drops now : Nat)
    (frameId : UInt32) :
    Turn reassembly.settings reassembly.reportsMissing frameId (.push packet drops now)
      (reassembly.find? frameId) (.outcome (reassembly.deliver packet now).2.1)
      (Signal.about frameId (reassembly.deliver packet now).2.2)
      ((reassembly.deliver packet now).1.find? frameId) := by
  rw [(h.deliver_spec hfound now).2, deliver_of_some hfound, about_packetEvent]
  by_cases hframe : packet.frameId = frameId
  · rw [if_pos hframe, if_pos hframe, ← hframe, hfound]
    exact .received rfl rfl
  · rw [if_neg hframe, if_neg hframe]
    exact .passed (Call.frameId?_push_ne hframe drops now) (fun _ _ => rfl)

theorem push_of_absent {reassembly : Reassembly} {packet : Reception.Packet}
    (habsent : reassembly.find? packet.frameId = none)
    (hnew : packet.frameId ∉ reassembly.evictedIds) (drops now : Nat) :
    reassembly.push packet drops now =
      let room := reassembly.makeRoom drops
      let opening := room.1.openFrame packet.header drops now
      let delivery := opening.1.deliver packet now
      (delivery.1, delivery.2.1, room.2 ++ opening.2 ++ delivery.2.2) := by
  rw [push, isInFlight_eq_isSome, habsent, if_neg (by simp), if_neg hnew]

theorem push_of_refused {reassembly : Reassembly} {packet : Reception.Packet}
    (habsent : reassembly.find? packet.frameId = none)
    (hlate : packet.frameId ∈ reassembly.evictedIds) (drops now : Nat) :
    reassembly.push packet drops now = reassembly.refuseEvicted packet := by
  rw [push, isInFlight_eq_isSome, habsent, if_neg (by simp), if_pos hlate]

theorem push_of_present {reassembly : Reassembly} {packet : Reception.Packet}
    {flight : Flight} (hfound : reassembly.find? packet.frameId = some flight)
    (drops now : Nat) :
    reassembly.push packet drops now = reassembly.deliver packet now := by
  rw [push, isInFlight_eq_isSome, hfound, if_pos (by simp)]

/-- A new frame is opened in the room that was made for it, and gets its packet. -/
theorem Sound.push_absent_spec {reassembly : Reassembly} (h : reassembly.Sound)
    {packet : Reception.Packet} (habsent : reassembly.find? packet.frameId = none)
    (hnew : packet.frameId ∉ reassembly.evictedIds) (drops now : Nat) :
    Succeeds reassembly (reassembly.push packet drops now).1 ∧
      ∃ (buffer : Assembly) (flight : Flight) (outcome : Assembly.Outcome),
        buffer.Ready reassembly.settings.maxFrameSize reassembly.settings.stride ∧
        flight = Flight.opened buffer packet.header drops now ∧
        outcome = flight.assembly.verdict packet.header packet.payload ∧
        (reassembly.push packet drops now).2.1 = outcome ∧
        ∀ frameId, (reassembly.push packet drops now).1.find? frameId =
            (if packet.frameId = frameId then some (flight.receive packet now)
            else (reassembly.makeRoom drops).1.find? frameId) ∧
          Signal.about frameId (reassembly.push packet drops now).2.2 =
            Signal.about frameId (reassembly.makeRoom drops).2 ++
              if packet.frameId = frameId then
                [.event (.started frameId packet.header.packetCount.toNat drops),
                  .event (packetEvent packet packet.header.packetCount.toNat outcome)]
              else [] := by
  let room := reassembly.makeRoom drops
  let opening := room.1.openFrame packet.header drops now
  let flight := Flight.opened room.1.takeBuffer.1 packet.header drops now
  obtain ⟨hroom, hdisplaced, -⟩ := h.displaced_makeRoom drops packet.frameId
  have hready := hroom.sound.takeBuffer_ready.1
  rw [hroom.settings_eq] at hready
  obtain ⟨hopening, hopened⟩ :=
    hroom.sound.openFrame_spec (hdisplaced.of_absent habsent).1 drops now
  replace hopened : ∀ frameId, opening.1.find? frameId =
      if packet.frameId = frameId then some flight else room.1.find? frameId := hopened
  have hfound : opening.1.find? packet.frameId = some flight :=
    (hopened packet.frameId).trans (if_pos rfl)
  obtain ⟨hdelivery, hreceived⟩ := hopening.sound.deliver_spec hfound now
  rw [push_of_absent habsent hnew]
  refine ⟨(hroom.trans hopening).trans hdelivery, _, flight, _, hready, rfl, rfl, ?_, ?_⟩
  · show (opening.1.deliver packet now).2.1 = _
    rw [deliver_of_some hfound]
  · intro frameId
    constructor
    · refine (hreceived frameId).trans ?_
      by_cases hframe : packet.frameId = frameId
      · rw [if_pos hframe, if_pos hframe]
      · rw [if_neg hframe, if_neg hframe, hopened, if_neg hframe]
    · show Signal.about frameId (room.2 ++ opening.2 ++ (opening.1.deliver packet now).2.2) = _
      rw [deliver_of_some hfound, Signal.about_append, Signal.about_append, about_openFrame,
        about_packetEvent, List.append_assoc]
      by_cases hframe : packet.frameId = frameId
      · have hheader : packet.header.frameId = frameId := hframe
        rw [if_pos hframe, if_pos hframe, if_pos hheader, hheader]
        rfl
      · have hheader : packet.header.frameId ≠ frameId := hframe
        rw [if_neg hframe, if_neg hframe, if_neg hheader]
        rfl

/-- The push of a new frame opens that frame and at most evicts another one. -/
theorem Sound.turn_push_absent {reassembly : Reassembly} (h : reassembly.Sound)
    {packet : Reception.Packet} (habsent : reassembly.find? packet.frameId = none)
    (hnew : packet.frameId ∉ reassembly.evictedIds) (drops now : Nat)
    (frameId : UInt32) :
    Succeeds reassembly (reassembly.push packet drops now).1 ∧
      Turn reassembly.settings reassembly.reportsMissing frameId (.push packet drops now)
        (reassembly.find? frameId) (.outcome (reassembly.push packet drops now).2.1)
        (Signal.about frameId (reassembly.push packet drops now).2.2)
        ((reassembly.push packet drops now).1.find? frameId) := by
  obtain ⟨hsucceeds, buffer, flight, outcome, hready, hflight, houtcome, hreply, hseen⟩ :=
    h.push_absent_spec habsent hnew drops now
  obtain ⟨hfind, habout⟩ := hseen frameId
  obtain ⟨-, hdisplaced, huncapped⟩ := h.displaced_makeRoom drops frameId
  refine ⟨hsucceeds, ?_⟩
  rw [hreply, hfind, habout]
  by_cases hframe : packet.frameId = frameId
  · subst hframe
    rw [if_pos rfl, if_pos rfl, (hdisplaced.of_absent habsent).2, habsent, List.nil_append]
    exact .opened rfl hready hflight houtcome
  · rw [if_neg hframe, if_neg hframe, List.append_nil]
    rcases hdisplaced with ⟨hsame, hsilent⟩ | ⟨other, hthere, hgone, htold⟩
    · rw [hsame, hsilent]
      exact .passed (Call.frameId?_push_ne hframe drops now) (fun _ _ => rfl)
    · have hcapped : reassembly.settings.maxInFlight ≠ none := by
        intro hnone
        rw [huncapped hnone, hthere] at hgone
        exact absurd hgone (by simp)
      rw [hthere, hgone, htold]
      exact .evicted hframe hcapped

/-- Every push is one of the turns for every frame. -/
theorem Sound.turn_push {reassembly : Reassembly} (h : reassembly.Sound)
    (packet : Reception.Packet) (drops now : Nat) (frameId : UInt32) :
    Succeeds reassembly (reassembly.push packet drops now).1 ∧
      Turn reassembly.settings reassembly.reportsMissing frameId (.push packet drops now)
        (reassembly.find? frameId) (.outcome (reassembly.push packet drops now).2.1)
        (Signal.about frameId (reassembly.push packet drops now).2.2)
        ((reassembly.push packet drops now).1.find? frameId) := by
  cases hfound : reassembly.find? packet.frameId with
  | some flight =>
      rw [push_of_present hfound]
      exact ⟨(h.deliver_spec hfound now).1, h.turn_deliver hfound drops now frameId⟩
  | none =>
      by_cases hlate : packet.frameId ∈ reassembly.evictedIds
      · rw [push_of_refused hfound hlate]
        refine ⟨⟨rfl, rfl, ⟨h.ascending, h.flights_ready, h.spares_ready,
          h.evictedIds_eq⟩⟩, ?_⟩
        show Turn _ _ _ _ _ (.outcome (.rejected .evicted))
          (Signal.about frameId [.event (packetEvent packet 0 (.rejected .evicted))])
          (reassembly.find? frameId)
        rw [about_packetEvent]
        by_cases hframe : packet.frameId = frameId
        · subst hframe
          rw [if_pos rfl, hfound]
          refine .refused rfl ?_
          intro huncapped
          rw [h.evictedIds_eq huncapped] at hlate
          exact absurd hlate List.not_mem_nil
        · rw [if_neg hframe]
          exact .passed (Call.frameId?_push_ne hframe drops now) (fun _ _ => rfl)
      · exact h.turn_push_absent hfound hlate drops now frameId

/-- Flights that leave by a rule of the call are retired, and the others stay. -/
theorem Sound.turn_leaving {reassembly : Reassembly} (h : reassembly.Sound) {call : Call}
    (hcall : call.frameId? = none) (reply : Reply) (frameId : UInt32) {after : Reassembly}
    {signals : List Signal}
    (hafter : after.find? frameId =
      (reassembly.find? frameId).filter fun flight =>
        (call.dismisses reassembly.settings flight).isNone)
    (hsignals : Signal.about frameId signals =
      Signal.about frameId
        ((reassembly.flights.filterMap fun flight =>
          (call.dismisses reassembly.settings flight).map fun reason =>
            (flight, reason)).flatMap fun entry =>
              retireSignals reassembly.reportsMissing entry.1 entry.2 call.drops)) :
    Turn reassembly.settings reassembly.reportsMissing frameId call
      (reassembly.find? frameId) reply (Signal.about frameId signals)
      (after.find? frameId) := by
  have hother : call.frameId? ≠ some frameId := by simp [hcall]
  rw [hsignals, h.ascending.about_leaving, hafter, ← find?_eq_lookup]
  cases hfound : reassembly.find? frameId with
  | none => exact .passed hother (by simp)
  | some flight =>
      cases hreason : call.dismisses reassembly.settings flight with
      | none =>
          simp only [Option.filter, hreason, Option.isNone_none, if_true]
          refine .passed hother ?_
          intro other hsame
          rw [← Option.some.inj hsame]
          exact hreason
      | some reason =>
          simp only [Option.filter, hreason, Option.isNone_some]
          exact .retired hother hreason

theorem Sound.turn_sweep {reassembly : Reassembly} (h : reassembly.Sound)
    (drops now : Nat) (frameId : UInt32) :
    Succeeds reassembly (reassembly.sweep drops now).1 ∧
      Turn reassembly.settings reassembly.reportsMissing frameId (.sweep drops now)
        (reassembly.find? frameId) (.retired (reassembly.sweep drops now).2.1)
        (Signal.about frameId (reassembly.sweep drops now).2.2)
        ((reassembly.sweep drops now).1.find? frameId) := by
  let keep := fun flight : Flight => (flight.due? reassembly.settings now).isNone
  have hkept : Succeeds reassembly
      { reassembly with flights := reassembly.flights.filter keep } :=
    ⟨rfl, rfl, h.filter keep⟩
  constructor
  · refine hkept.trans (hkept.sound.succeeds_retireAll drops ?_)
    intro entry hentry
    obtain ⟨flight, hmem, hdue⟩ := List.mem_filterMap.mp hentry
    obtain ⟨reason, -, rfl⟩ := Option.map_eq_some_iff.mp hdue
    exact h.flights_ready flight hmem
  · refine h.turn_leaving rfl _ frameId ?_ ?_
    · exact (find?_retireAll _ _ _ _).trans (h.ascending.lookup_filter keep frameId)
    · show Signal.about frameId (retireAll drops (reassembly.dueFlights now) _).2 = _
      rw [signals_retireAll]
      rfl

theorem Sound.turn_drain {reassembly : Reassembly} (h : reassembly.Sound) (drops : Nat)
    (frameId : UInt32) :
    Succeeds reassembly (reassembly.drain drops).1 ∧
      Turn reassembly.settings reassembly.reportsMissing frameId (.drain drops)
        (reassembly.find? frameId) (.retired (reassembly.drain drops).2.1)
        (Signal.about frameId (reassembly.drain drops).2.2)
        ((reassembly.drain drops).1.find? frameId) := by
  let leaving := reassembly.flights.map fun flight => (flight, RetireReason.shutdown)
  have hempty : Succeeds reassembly { reassembly with flights := [] } :=
    ⟨rfl, rfl, ⟨List.Pairwise.nil, by simp, h.spares_ready, h.evictedIds_eq⟩⟩
  constructor
  · refine hempty.trans (hempty.sound.succeeds_retireAll drops ?_)
    intro entry hentry
    obtain ⟨flight, hmem, rfl⟩ := List.mem_map.mp hentry
    exact h.flights_ready flight hmem
  · refine h.turn_leaving rfl _ frameId ?_ ?_
    · refine (find?_retireAll _ leaving _ _).trans ?_
      cases reassembly.find? frameId <;> rfl
    · have hlast : Signal.about frameId
          (if 0 < leaving.length then [Signal.drained leaving.length] else []) = [] := by
        apply Signal.about_of_forall_ne
        intro signal hmem
        split at hmem
        · rw [List.mem_singleton.mp hmem]
          simp [Signal.frameId?]
        · exact absurd hmem List.not_mem_nil
      show Signal.about frameId ((retireAll drops leaving _).2 ++ _) = _
      rw [Signal.about_append, hlast, List.append_nil, signals_retireAll]
      simp only [leaving, Call.dismisses, Option.map_some, List.filterMap_eq_map']
      rfl

/-- Every call leads from a sound state to a sound one, by one of the turns for each frame. -/
theorem Sound.turn {reassembly : Reassembly} (h : reassembly.Sound) (call : Call)
    (frameId : UInt32) :
    Succeeds reassembly (reassembly.step call).1 ∧
      Turn reassembly.settings reassembly.reportsMissing frameId call
        (reassembly.find? frameId) (reassembly.step call).2.1
        (Signal.about frameId (reassembly.step call).2.2)
        ((reassembly.step call).1.find? frameId) := by
  cases call with
  | push packet drops now => exact h.turn_push packet drops now frameId
  | sweep drops now => exact h.turn_sweep drops now frameId
  | drain drops => exact h.turn_drain drops frameId

theorem Sound.step {reassembly : Reassembly} (h : reassembly.Sound) (call : Call) :
    Succeeds reassembly (reassembly.step call).1 :=
  (h.turn call 0).1

end Reassembly

end Framecast
