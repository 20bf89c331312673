import Framecast.Proofs.Datagram.Partition
import Framecast.Proofs.Sending.Planning
import Framecast.Proofs.WireForm
import Framecast.Sending.Sender

/-!
# What a sender puts on the wire

A link that is recorded shows all that it was given and what it answered.  A datagram is
given to it again only after a transient fault, so what it took of a frame is, in order,
a part of the planned packets, and the report counts it as sent.  A link that takes each
datagram in one of the attempts takes the whole plan.  Every call takes the next frame
number, whether its frame can be cut or not, and no call changes the options.
-/

namespace Framecast.Sending

open Framecast.Datagram (Packet fragment maxPackets maxPayload)

variable {σ : Type}

/-! ## Offers -/

/-- The attempts at one datagram that ended with the given answer. -/
structure Tries (datagram : Bytes) (retries : Nat) (answer : Except LinkFault Nat)
    (exchanges : List Exchange) : Prop where
  datagram_eq : ∀ exchange ∈ exchanges, exchange.datagram = datagram
  length_le : exchanges.length ≤ retries + 1
  last_eq : exchanges.getLast? = some ⟨datagram, answer⟩
  transient : ∀ exchange ∈ exchanges.dropLast,
    ∃ fault, exchange.answer = .error fault ∧ fault.isTransient = true
  gives_up : ∀ fault, answer = .error fault → fault.isTransient = true →
    exchanges.length = retries + 1

theorem tries_single (datagram : Bytes) (retries : Nat) (answer : Except LinkFault Nat)
    (h : ∀ fault, answer = .error fault → fault.isTransient = true → retries = 0) :
    Tries datagram retries answer [⟨datagram, answer⟩] where
  datagram_eq := by simp
  length_le := by simp
  last_eq := rfl
  transient := by simp
  gives_up := by
    intro fault hanswer htransient
    rw [h fault hanswer htransient]
    rfl

theorem Tries.cons {datagram : Bytes} {retries : Nat} {answer : Except LinkFault Nat}
    {exchanges : List Exchange} (h : Tries datagram retries answer exchanges)
    {fault : LinkFault} (htransient : fault.isTransient = true) :
    Tries datagram (retries + 1) answer (⟨datagram, .error fault⟩ :: exchanges) := by
  have hne : exchanges ≠ [] := by
    intro hnil
    have hlast := h.last_eq
    rw [hnil] at hlast
    exact absurd hlast (by simp)
  refine ⟨?_, ?_, ?_, ?_, ?_⟩
  · intro exchange hmem
    rcases List.mem_cons.mp hmem with rfl | hmem
    · rfl
    · exact h.datagram_eq exchange hmem
  · have hle := h.length_le
    simp only [List.length_cons]
    omega
  · rw [List.getLast?_cons_of_ne_nil hne]
    exact h.last_eq
  · intro exchange hmem
    rw [List.dropLast_cons_of_ne_nil hne] at hmem
    rcases List.mem_cons.mp hmem with rfl | hmem
    · exact ⟨fault, rfl, htransient⟩
    · exact h.transient exchange hmem
  · intro other hanswer hother
    rw [List.length_cons, h.gives_up other hanswer hother]

theorem record_carry (link : Link σ) (datagram : Bytes) (state : σ × Array Exchange) :
    (link.recorded.carry state datagram).2.2 =
      state.2 ++ [(⟨datagram, (link.carry state.1 datagram).1⟩ : Exchange)].toArray :=
  Array.push_eq_append

/-- What an offer adds to the record. -/
theorem tries_offer (link : Link σ) (datagram : Bytes) (retries : Nat)
    (state : σ × Array Exchange) :
    ∃ exchanges : List Exchange,
      (link.recorded.offer datagram retries state).2.2 = state.2 ++ exchanges.toArray ∧
        Tries datagram retries (link.recorded.offer datagram retries state).1 exchanges := by
  induction retries generalizing state with
  | zero =>
      exact ⟨_, record_carry link datagram state,
        tries_single datagram 0 _ fun _ _ _ => rfl⟩
  | succ retries ih =>
      have hrecord := record_carry link datagram state
      unfold Link.offer
      cases hcarry : link.recorded.carry state datagram with
      | mk answer next =>
          have hanswer : (link.carry state.1 datagram).1 = answer := congrArg Prod.fst hcarry
          rw [hcarry, hanswer] at hrecord
          cases answer with
          | ok size =>
              refine ⟨_, hrecord, tries_single datagram (retries + 1) _ ?_⟩
              exact fun fault hfault => absurd hfault (by simp)
          | error fault =>
              by_cases htransient : fault.isTransient = true
              · obtain ⟨exchanges, hnext, htries⟩ := ih next
                simp only [htransient, if_true]
                refine ⟨⟨datagram, .error fault⟩ :: exchanges, ?_, htries.cons htransient⟩
                rw [hnext, hrecord, Array.append_assoc]
                simp
              · simp only [htransient]
                refine ⟨_, hrecord, tries_single datagram (retries + 1) _ ?_⟩
                intro other hother hagain
                cases hother
                exact absurd hagain htransient

theorem offer_recorded (link : Link σ) (datagram : Bytes) (retries : Nat)
    (state : σ × Array Exchange) :
    (link.recorded.offer datagram retries state).1 = (link.offer datagram retries state.1).1 := by
  induction retries generalizing state with
  | zero => rfl
  | succ retries ih =>
      have hstep : link.recorded.carry state datagram =
          ((link.carry state.1 datagram).1, (link.carry state.1 datagram).2,
            state.2.push ⟨datagram, (link.carry state.1 datagram).1⟩) := rfl
      unfold Link.offer
      rw [hstep]
      cases hcarry : link.carry state.1 datagram with
      | mk answer next =>
          cases answer with
          | ok size => rfl
          | error fault =>
              by_cases htransient : fault.isTransient = true
              · simp only [htransient, if_true]
                exact ih _
              · simp only [htransient]
                rfl

section
variable {datagram : Bytes} {retries : Nat} {answer : Except LinkFault Nat}
  {exchanges : List Exchange} (h : Tries datagram retries answer exchanges)
include h

theorem Tries.eq_concat : exchanges = exchanges.dropLast ++ [⟨datagram, answer⟩] := by
  obtain ⟨before, hbefore⟩ := List.getLast?_eq_some_iff.mp h.last_eq
  rw [hbefore, List.dropLast_concat]

/-- An attempt before the last took nothing. -/
theorem Tries.filterMap_eq {α : Type} (f : Exchange → Option α)
    (hfault : ∀ exchange fault, exchange.answer = .error fault → f exchange = none) :
    exchanges.filterMap f = (f ⟨datagram, answer⟩).toList := by
  have hnone : exchanges.dropLast.filterMap f = [] := by
    rw [List.filterMap_eq_nil_iff]
    intro exchange hmem
    obtain ⟨fault, hanswer, -⟩ := h.transient exchange hmem
    exact hfault exchange fault hanswer
  have hsplit := congrArg (List.filterMap f) h.eq_concat
  rw [List.filterMap_append, hnone, List.nil_append] at hsplit
  rw [hsplit]
  cases hlast : f ⟨datagram, answer⟩ with
  | none =>
      rw [List.filterMap_cons_none hlast]
      rfl
  | some value =>
      rw [List.filterMap_cons_some hlast]
      rfl

end

/-! ## The packets of a frame -/

/-- The bytes that a link says it took. -/
def Exchange.size? (exchange : Exchange) : Option Nat := exchange.answer.toOption

/-- What became of packets that were given to a link, as its record has it. -/
structure Dispatches (packets : List Packet) (transmission : Transmission)
    (exchanges : List Exchange) : Prop where
  given : ∀ exchange ∈ exchanges, exchange.datagram ∈ packets.map Packet.encode
  taken_sublist : (exchanges.filterMap Exchange.taken?).Sublist (packets.map Packet.encode)
  sent_eq : transmission.sent = (exchanges.filterMap Exchange.taken?).length
  sent_add_failed : transmission.sent + transmission.failed = packets.length
  bytes_eq : transmission.bytes = (exchanges.filterMap Exchange.size?).sum

theorem dispatches_nil : Dispatches [] ⟨0, 0, 0, []⟩ [] where
  given := by simp
  taken_sublist := .refl _
  sent_eq := rfl
  sent_add_failed := rfl
  bytes_eq := rfl

/-- One more packet in front of packets that were given to the link. -/
theorem Dispatches.cons {packet : Packet} {rest : List Packet} {retries : Nat}
    {answer : Except LinkFault Nat} {later transmission : Transmission}
    {tried exchanges : List Exchange} (hrest : Dispatches rest later exchanges)
    (htries : Tries packet.encode retries answer tried)
    (hsent : transmission.sent = answer.toOption.toList.length + later.sent)
    (hall : transmission.sent + transmission.failed = later.sent + later.failed + 1)
    (hbytes : transmission.bytes = answer.toOption.toList.sum + later.bytes) :
    Dispatches (packet :: rest) transmission (tried ++ exchanges) := by
  have htaken := htries.filterMap_eq Exchange.taken? fun exchange fault h => by
    simp [Exchange.taken?, h]
  have hsize := htries.filterMap_eq Exchange.size? fun exchange fault h => by
    simp [Exchange.size?, h, Except.toOption]
  have hlater := hrest.sent_add_failed
  refine ⟨?_, ?_, ?_, ?_, ?_⟩
  · intro exchange hmem
    rw [List.map_cons, List.mem_cons]
    rcases List.mem_append.mp hmem with hfirst | hmem
    · exact .inl (htries.datagram_eq exchange hfirst)
    · exact .inr (hrest.given exchange hmem)
  · rw [List.filterMap_append, htaken]
    cases answer with
    | ok size => exact hrest.taken_sublist.cons_cons packet.encode
    | error fault => exact hrest.taken_sublist.cons packet.encode
  · rw [List.filterMap_append, htaken, List.length_append, hsent, hrest.sent_eq]
    cases answer with
    | ok size => rfl
    | error fault => rfl
  · rw [hall, List.length_cons]
    omega
  · rw [List.filterMap_append, hsize, List.sum_append, hbytes, hrest.bytes_eq]
    rfl

theorem dispatches_transmit (link : Link σ) (retries : Nat) (packets : List Packet)
    (state : σ × Array Exchange) :
    ∃ exchanges : List Exchange,
      (transmit link.recorded retries packets state).2.2 = state.2 ++ exchanges.toArray ∧
        Dispatches packets (transmit link.recorded retries packets state).1 exchanges := by
  induction packets generalizing state with
  | nil => exact ⟨[], by simp [transmit], dispatches_nil⟩
  | cons packet rest ih =>
      obtain ⟨tried, hrecord, htries⟩ := tries_offer link packet.encode retries state
      unfold transmit
      cases hoffer : link.recorded.offer packet.encode retries state with
      | mk answer next =>
          rw [hoffer] at hrecord htries
          obtain ⟨exchanges, hlater, hrest⟩ := ih next
          have hall : (transmit link.recorded retries rest next).2.2 =
              state.2 ++ (tried ++ exchanges).toArray := by
            rw [hlater, hrecord, Array.append_assoc]
            simp
          refine ⟨tried ++ exchanges, ?_, ?_⟩
          · cases answer with
            | ok size => exact hall
            | error fault => exact hall
          · cases answer with
            | ok size => exact hrest.cons htries (Nat.add_comm _ _) (by simp only; omega) rfl
            | error fault =>
                exact hrest.cons htries (Nat.zero_add _).symm rfl (Nat.zero_add _).symm

/-! ## Links that deliver -/

/-- Each datagram is taken whole in one of the attempts. -/
def Link.Delivers (link : Link σ) (retries : Nat) : Prop :=
  ∀ (datagram : Bytes) (state : σ), (link.offer datagram retries state).1 = .ok datagram.length

theorem Link.Delivers.recorded {link : Link σ} {retries : Nat} (h : link.Delivers retries) :
    link.recorded.Delivers retries := by
  intro datagram state
  rw [offer_recorded]
  exact h datagram state.1

theorem Link.delivers_up (retries : Nat) : (Link.up : Link σ).Delivers retries := by
  intro datagram state
  cases retries with
  | zero => rfl
  | succ retries => rfl

theorem Link.Delivers.transmit_eq {link : Link σ} {retries : Nat} (h : link.Delivers retries)
    (packets : List Packet) (state : σ) :
    (transmit link retries packets state).1 =
      ⟨packets.length, 0, ((packets.map Packet.encode).map List.length).sum, []⟩ := by
  induction packets generalizing state with
  | nil => rfl
  | cons packet rest ih =>
      have hanswer := h packet.encode state
      unfold transmit
      cases hoffer : link.offer packet.encode retries state with
      | mk answer next =>
          rw [hoffer] at hanswer
          subst hanswer
          simp only [ih next, List.length_cons, List.map_cons, List.sum_cons]

/-- A link that delivers takes every packet, in order. -/
theorem Link.Delivers.wire_eq {link : Link σ} {retries : Nat} (h : link.Delivers retries)
    (packets : List Packet) (state : σ × Array Exchange) :
    wire (transmit link.recorded retries packets state).2.2 =
      wire state.2 ++ packets.map Packet.encode := by
  obtain ⟨exchanges, hrecord, hdispatches⟩ := dispatches_transmit link retries packets state
  have hlength := hdispatches.sent_eq
  rw [h.recorded.transmit_eq packets state] at hlength
  have htaken := hdispatches.taken_sublist.eq_of_length (by rw [List.length_map, ← hlength])
  unfold wire
  rw [hrecord, Array.toList_append, List.filterMap_append, htaken]

/-! ## One call -/

/-- Every packet of a frame declares the payload that it holds, so its datagram is read back. -/
theorem decode_encode_of_mem {frameId : UInt32} {frame : Bytes} {packets : List Packet}
    (h : fragment frameId frame maxPayload = .ok packets) {packet : Packet}
    (hmem : packet ∈ packets) : Packet.decode packet.encode = .ok packet := by
  obtain ⟨number, hnumber⟩ := List.mem_iff_getElem?.mp hmem
  have hcut := Datagram.isCut_of_getElem? h (by decide) hnumber
  rw [← List.append_nil packet.encode]
  exact Packet.decode_encode_append hcut.payloadSize_eq []

structure Reports (packets planned : List Packet) (taken : List Bytes) (report : SendReport) :
    Prop where
  packets_eq : report.packets = packets.length
  packets_split : report.packets = report.sent + report.skipped
  failed_eq : report.failed = 0
  sent_eq : report.sent = taken.length
  wire_eq : taken.map Packet.decode = planned.map Except.ok
  bytes_eq : report.bytes = (taken.map List.length).sum

inductive Sends (options : Options) (random : Random) (frameId : UInt32) (frame : Bytes) :
    Except SendError (SendReport × List LogRecord) → List Bytes → Prop
  | refused (hlarge : maxPackets * maxPayload < frame.length) :
      Sends options random frameId frame (.error ⟨frameId, .frameTooLarge frame.length⟩) []
  | sent {packets : List Packet} {report : SendReport} {log : List LogRecord}
      {taken : List Bytes}
      (hpackets : fragment frameId frame maxPayload = .ok packets)
      (hframeId : report.frameId = frameId)
      (hreports : Reports packets (plan options random packets).2 taken report) :
      Sends options random frameId frame (.ok (report, log)) taken

theorem sends_send {link : Link σ} (sender : Sender) (h : link.Delivers sender.maxRetries)
    (frame : Bytes) (state : σ × Array Exchange) :
    ∃ taken : List Bytes,
      wire (sender.send link.recorded frame state).2.2.2 = wire state.2 ++ taken ∧
        Sends sender.options sender.random sender.nextFrameId frame
          (sender.send link.recorded frame state).1 taken := by
  by_cases hlarge : maxPackets * maxPayload < frame.length
  · have hrefused := Datagram.fragment_of_too_large sender.nextFrameId (by decide) hlarge
    simp only [Sender.send, hrefused]
    exact ⟨[], (List.append_nil _).symm, .refused hlarge⟩
  · have hcount : Datagram.packetsNeeded frame.length maxPayload ≤ maxPackets :=
      (Datagram.packetsNeeded_le_iff (by decide)).mpr (Nat.le_of_not_lt hlarge)
    obtain ⟨packets, hpackets⟩ := Datagram.fragment_ok sender.nextFrameId (by decide) hcount
    have hplanned : (plan sender.options sender.random packets).2.length ≤ packets.length :=
      length_plan_le sender.options sender.random packets
    have hdecode : ∀ packet ∈ (plan sender.options sender.random packets).2,
        Packet.decode packet.encode = .ok packet :=
      fun packet hmem => decode_encode_of_mem hpackets (mem_of_mem_plan hmem)
    simp only [Sender.send, hpackets, h.recorded.transmit_eq]
    refine ⟨_, h.wire_eq _ state, .sent hpackets rfl {
      packets_eq := rfl
      packets_split := (Nat.add_sub_cancel' hplanned).symm
      failed_eq := rfl
      sent_eq := (List.length_map _).symm
      wire_eq := ?_
      bytes_eq := rfl }⟩
    rw [List.map_map]
    exact List.map_congr_left hdecode

/-! ## Calls in a row -/

def Sender.after (sender : Sender) (link : Link σ) (frames : List Bytes) (state : σ) :
    Sender × σ :=
  frames.foldl (fun current frame => (current.1.send link frame current.2).2) (sender, state)

structure Sender.Follows (sender later : Sender) (calls : Nat) : Prop where
  options_eq : later.options = sender.options
  maxRetries_eq : later.maxRetries = sender.maxRetries
  nextFrameId_eq : later.nextFrameId = sender.nextFrameId + UInt32.ofNat calls

namespace Sender

theorem follows_send (sender : Sender) (link : Link σ) (frame : Bytes) (state : σ) :
    sender.Follows (sender.send link frame state).2.1 1 := by
  simp only [send]
  split
  · exact ⟨rfl, rfl, rfl⟩
  · exact ⟨rfl, rfl, rfl⟩

theorem Follows.trans {sender next later : Sender} {calls more : Nat}
    (hnext : sender.Follows next calls) (hlater : next.Follows later more) :
    sender.Follows later (calls + more) where
  options_eq := hlater.options_eq.trans hnext.options_eq
  maxRetries_eq := hlater.maxRetries_eq.trans hnext.maxRetries_eq
  nextFrameId_eq := by
    rw [hlater.nextFrameId_eq, hnext.nextFrameId_eq, UInt32.ofNat_add, UInt32.add_assoc]

theorem follows_after (sender : Sender) (link : Link σ) (frames : List Bytes) (state : σ) :
    sender.Follows (sender.after link frames state).1 frames.length := by
  induction frames generalizing sender state with
  | nil => exact ⟨rfl, rfl, (UInt32.add_zero _).symm⟩
  | cons frame rest ih =>
      rw [List.length_cons, Nat.add_comm]
      exact (sender.follows_send link frame state).trans (ih _ _)

section
variable {α : Type} (link : Link σ) (encode : α → Bytes)

theorem length_sendAll (sender : Sender) (items : List α) (state : σ) :
    (sender.sendAll link encode items state).length = items.length := by
  induction items generalizing sender state with
  | nil => rfl
  | cons item rest ih =>
      unfold sendAll
      rw [List.length_cons, List.length_cons, ih]

theorem getElem?_sendAll (sender : Sender) (items : List α) (state : σ) (number : Nat) :
    (sender.sendAll link encode items state)[number]? = items[number]?.map fun item =>
      let before := sender.after link ((items.take number).map encode) state
      let (result, _, last) := before.1.send link (encode item) before.2
      (result, last) := by
  induction items generalizing sender state number with
  | nil => rfl
  | cons item rest ih =>
      unfold sendAll
      cases number with
      | zero => rfl
      | succ number =>
          rw [List.getElem?_cons_succ, List.getElem?_cons_succ, ih]
          rfl

end

end Sender

/--
A plan leaves out and rearranges packets and does nothing else to them; which ones it
leaves out depends on the rate and on one word for each.  Whatever a link answers, it is
given planned packets only, and takes each at most once and in order.  A new sender gives
its calls the frame numbers from one on, wrapping around, also after frames that were too
large.  Each other frame is cut, and over a link that delivers, the datagrams that the
link took for it are read back as the packets that were planned, with the generator as the
earlier calls left it.
-/
theorem wire_carries_the_plan :
    (∀ (rate : Decimal.Double) (random : Random) (packets : List Packet),
        Plans rate random packets) ∧
      (∀ {σ : Type} (link : Link σ) (retries : Nat) (packets : List Packet)
        (state : σ × Array Exchange),
        ∃ exchanges : List Exchange,
          (transmit link.recorded retries packets state).2.2 = state.2 ++ exchanges.toArray ∧
            Dispatches packets (transmit link.recorded retries packets state).1 exchanges) ∧
      ∀ {σ α : Type} (link : Link σ) (maxRetries : Nat), link.Delivers maxRetries →
        ∀ (options : Options) (random : Random) (encode : α → Bytes) (items : List α)
          (state : σ),
          let sender := Sender.new options maxRetries random
          let results := sender.sendAll link.recorded encode items (state, #[])
          results.length = items.length ∧
            ∀ (number : Nat) (item : α), items[number]? = some item →
              let before :=
                sender.after link.recorded ((items.take number).map encode) (state, #[])
              ∃ result later taken, results[number]? = some (result, later) ∧
                wire later.2 = wire before.2.2 ++ taken ∧
                Sends options before.1.random (UInt32.ofNat (number + 1)) (encode item)
                  result taken := by
  refine ⟨plans_ofRate, dispatches_transmit, ?_⟩
  intro σ α link maxRetries hdelivers options random encode items state sender results
  refine ⟨sender.length_sendAll link.recorded encode items _, ?_⟩
  intro number item hitem before
  have hnumber : ((items.take number).map encode).length = number := by
    have hlt : number < items.length := (List.getElem?_eq_some_iff.mp hitem).choose
    rw [List.length_map, List.length_take, Nat.min_eq_left (Nat.le_of_lt hlt)]
  have hfollows :=
    sender.follows_after link.recorded ((items.take number).map encode) (state, #[])
  have hframeId : before.1.nextFrameId = UInt32.ofNat (number + 1) := by
    rw [hfollows.nextFrameId_eq, hnumber, Nat.add_comm, UInt32.ofNat_add]
    rfl
  have hbefore : link.Delivers before.1.maxRetries := by
    rw [hfollows.maxRetries_eq]
    exact hdelivers
  obtain ⟨taken, hwire, hsends⟩ := sends_send before.1 hbefore (encode item) before.2
  rw [hfollows.options_eq, hframeId] at hsends
  refine ⟨_, _, taken, ?_, hwire, hsends⟩
  rw [sender.getElem?_sendAll, hitem, Option.map_some]

/-- The frame in the middle is too large, and the one after it has the number three. -/
theorem wire_carries_the_plan_refused :
    let packets : List Packet :=
      [⟨⟨1, 0, 3, 1⟩, [5]⟩, ⟨⟨1, 1, 3, 1⟩, [6]⟩, ⟨⟨1, 2, 3, 1⟩, [7]⟩]
    let large : Bytes := List.replicate 91749001 0
    let link : Link Unit := .up
    let options : Options := ⟨.ofRate (.finite false ⟨1, -1⟩), true⟩
    let results :=
      (Sender.new options 5 (.ofSeed 7)).sendAll link.recorded id [[1], large, [2, 3]] ((), #[])
    (∃ later, results[1]? = some (.error ⟨2, .frameTooLarge 91749001⟩, later)) ∧
      (∃ report log later, results[2]? = some (.ok (report, log), later) ∧
        report.frameId = 3 ∧ report.packets = 1 ∧ report.sent + report.skipped = 1 ∧
        report.failed = 0) ∧
      (plan ⟨.ofRate (.finite true ⟨0, 3⟩), false⟩ (.ofSeed 7) packets).2 = packets ∧
      (plan ⟨.ofRate (.finite false ⟨4, -2⟩), false⟩ (.ofSeed 7) packets).2 = [] ∧
      (plan ⟨.ofRate (.finite false ⟨1, -1⟩), false⟩ (.ofSeed 7) packets).2 =
        [⟨⟨1, 2, 3, 1⟩, [7]⟩] := by
  intro packets large link options results
  obtain ⟨hplans, -, hcalls⟩ := wire_carries_the_plan
  have hlength : large.length = 91749001 := List.length_replicate
  obtain ⟨-, hresults⟩ :=
    hcalls link 5 (Link.delivers_up 5) options (.ofSeed 7) id [[1], large, [2, 3]] ()
  obtain ⟨middle, afterMiddle, _, hmiddle, -, hrefused⟩ := hresults 1 large rfl
  obtain ⟨last, afterLast, _, hlast, -, hsent⟩ := hresults 2 [2, 3] rfl
  have hzero := (hplans (.finite true ⟨0, 3⟩) (.ofSeed 7) packets).all_kept _ _ rfl
    (by decide)
  have hone := (hplans (.finite false ⟨4, -2⟩) (.ofSeed 7) packets).none_kept _ rfl
    (by decide)
  have hhalf := (hplans (.finite false ⟨1, -1⟩) (.ofSeed 7) packets).each_drawn _ rfl
    (by decide) (by decide)
  refine ⟨?_, ?_, hzero, hone, hhalf.trans (by decide)⟩
  · cases hrefused with
    | refused hlarge =>
        rw [id, hlength] at hmiddle
        exact ⟨afterMiddle, hmiddle⟩
    | sent hpackets hframeId hreports =>
        have hlarge : maxPackets * maxPayload < large.length := by
          rw [hlength]
          decide
        have hrefuse := Datagram.fragment_of_too_large (UInt32.ofNat (1 + 1)) (by decide) hlarge
        exact absurd (hrefuse.symm.trans hpackets) (by simp)
  · cases hsent with
    | refused hlarge => exact absurd hlarge (by decide)
    | sent hpackets hframeId hreports =>
        have hcount := Datagram.length_of_fragment hpackets
        refine ⟨_, _, _, hlast, hframeId, ?_, ?_, hreports.failed_eq⟩
        · rw [hreports.packets_eq, hcount]
          decide
        · rw [← hreports.packets_split, hreports.packets_eq, hcount]
          decide

end Framecast.Sending
