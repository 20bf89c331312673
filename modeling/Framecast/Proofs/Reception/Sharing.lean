import Framecast.Reception.Sharing

/-!
# First in, first out under any interleaving

What entered the queue is what came out of it and then what still waits in it, in this
order, whoever made the moves.  A packet is refused exactly by a full queue, and a
consumer goes away with nothing only from an empty one.
-/

namespace Framecast.Reception

variable {User : Type}

namespace Queue

theorem push_of_full {queue : Queue} (hfull : queue.capacity ≤ queue.packets.length)
    (packet : Packet) :
    queue.push packet = ({ queue with dropped := queue.dropped + 1 }, false) := by
  simp [push, isFull, size, hfull]

theorem push_of_room {queue : Queue} (hroom : queue.packets.length < queue.capacity)
    (packet : Packet) :
    queue.push packet = ({ queue with packets := queue.packets ++ [packet] }, true) := by
  simp [push, isFull, size, Nat.not_le.mpr hroom]

theorem look_of_cons {queue : Queue} {packet : Packet} {rest : List Packet}
    (hpackets : queue.packets = packet :: rest) (waiting : Waiting)
    (shutdown expired : Bool) :
    queue.look waiting shutdown expired =
      some ({ queue with packets := rest }, some packet) := by
  simp [look, pop, hpackets]

theorem look_of_nil {queue : Queue} (hpackets : queue.packets = []) (waiting : Waiting)
    (shutdown expired : Bool) :
    queue.look waiting shutdown expired =
      if waiting.givesUp shutdown expired then some (queue, none) else none := by
  simp [look, pop, hpackets]

end Queue

/-- What flows in and out of a queue in two stretches, put together. -/
theorem flow_append {start middle last entering later leaving next : List Packet}
    (h : start ++ entering = leaving ++ middle) (hlater : middle ++ later = next ++ last) :
    start ++ (entering ++ later) = leaving ++ next ++ last := by
  rw [← List.append_assoc, h, List.append_assoc, hlater, List.append_assoc]

namespace Shared

/-! ## What a run tells -/

def entered (log : List (Move User × Reply)) : List Packet :=
  log.filterMap fun
    | (.push _ packet, .pushed true) => some packet
    | _ => none

def takenOut (log : List (Move User × Reply)) : List Packet :=
  log.filterMap fun
    | (_, .popped packet) => packet
    | _ => none

def offers (log : List (Move User × Reply)) : Nat :=
  log.countP fun
    | (.push _ _, _) => true
    | _ => false

theorem takenOut_emptying (user : User) (waiting : Queue.Waiting) (expired : Bool)
    (packets : List Packet) :
    takenOut (packets.map fun packet =>
      (Move.look user waiting expired, Reply.popped (some packet))) = packets := by
  rw [takenOut, List.filterMap_map]
  exact List.filterMap_some

/-! ## One move -/

/-- What a move makes of the queue and answers. -/
inductive Passes (queue : Queue) (shutdown : Bool) :
    Move User → Reply → Queue → Prop where
  | entering (user : User) (packet : Packet)
      (hroom : queue.packets.length < queue.capacity) :
      Passes queue shutdown (.push user packet) (.pushed true)
        { queue with packets := queue.packets ++ [packet] }
  | refusing (user : User) (packet : Packet)
      (hfull : queue.capacity ≤ queue.packets.length) :
      Passes queue shutdown (.push user packet) (.pushed false)
        { queue with dropped := queue.dropped + 1 }
  | leaving (user : User) (waiting : Queue.Waiting) (expired : Bool) {packet : Packet}
      {rest : List Packet} (hpackets : queue.packets = packet :: rest) :
      Passes queue shutdown (.look user waiting expired) (.popped (some packet))
        { queue with packets := rest }
  | givingUp (user : User) {waiting : Queue.Waiting} {expired : Bool}
      (hpackets : queue.packets = [])
      (hgives : waiting.givesUp shutdown expired = true) :
      Passes queue shutdown (.look user waiting expired) (.popped none) queue
  | lookingAgain (user : User) {waiting : Queue.Waiting} {expired : Bool}
      (hpackets : queue.packets = [])
      (hgives : waiting.givesUp shutdown expired = false) :
      Passes queue shutdown (.look user waiting expired) .again queue
  | requesting : Passes queue shutdown .shutdown .requested queue

/-! ## What one move keeps, and a whole run -/

/-- A stretch of a run moves packets through the queue and neither adds nor loses any. -/
structure Conserves (queue : Queue) (log : List (Move User × Reply)) (final : Queue) :
    Prop where
  capacity_eq : final.capacity = queue.capacity
  order : queue.packets ++ entered log = takenOut log ++ final.packets
  counted : queue.dropped + offers log = (entered log).length + final.dropped
  bounded : queue.packets.length ≤ queue.capacity → final.packets.length ≤ final.capacity

theorem conserves_nil (queue : Queue) :
    Conserves queue ([] : List (Move User × Reply)) queue :=
  ⟨rfl, List.append_nil _, (Nat.zero_add _).symm, id⟩

theorem Passes.conserves {queue final : Queue} {shutdown : Bool} {move : Move User}
    {reply : Reply} (h : Passes queue shutdown move reply final) :
    Conserves queue [(move, reply)] final := by
  cases h with
  | entering user packet hroom =>
      exact ⟨rfl, rfl, by simp [offers, entered]; omega, fun _ => by simp; omega⟩
  | refusing user packet hfull =>
      exact ⟨rfl, List.append_nil _, by simp [offers, entered], id⟩
  | leaving user waiting expired hpackets =>
      refine ⟨rfl, by simpa [entered, takenOut] using hpackets, by simp [offers, entered], ?_⟩
      intro hbound
      rw [hpackets] at hbound
      exact Nat.le_of_succ_le hbound
  | givingUp | lookingAgain | requesting =>
      exact ⟨rfl, List.append_nil _, by simp [offers, entered], id⟩

theorem Conserves.append {queue middle final : Queue} {log later : List (Move User × Reply)}
    (h : Conserves queue log middle) (hlater : Conserves middle later final) :
    Conserves queue (log ++ later) final := by
  refine ⟨hlater.capacity_eq.trans h.capacity_eq, ?_, ?_, hlater.bounded ∘ h.bounded⟩
  · rw [entered, List.filterMap_append, takenOut, List.filterMap_append]
    exact flow_append h.order hlater.order
  · have hfirst := h.counted
    have hsecond := hlater.counted
    simp only [entered, offers, List.filterMap_append, List.length_append,
      List.countP_append] at *
    omega

section
variable [DecidableEq User] {shared next last : Shared User}

theorem step_passes {move : Move User} {reply : Reply}
    (hstep : shared.step move = some (next, reply)) :
    Passes shared.queue shared.shutdown move reply next.queue := by
  cases move with
  | push user packet =>
      simp only [step, Option.ite_none_right_eq_some] at hstep
      obtain ⟨-, hstep⟩ := hstep
      by_cases hfull : shared.queue.capacity ≤ shared.queue.packets.length
      · rw [Queue.push_of_full hfull] at hstep
        cases hstep
        exact .refusing user packet hfull
      · have hroom := Nat.lt_of_not_le hfull
        rw [Queue.push_of_room hroom] at hstep
        cases hstep
        exact .entering user packet hroom
  | look user waiting expired =>
      simp only [step, Option.ite_none_right_eq_some] at hstep
      obtain ⟨-, hstep⟩ := hstep
      cases hpackets : shared.queue.packets with
      | cons packet rest =>
          rw [Queue.look_of_cons hpackets] at hstep
          cases hstep
          exact .leaving user waiting expired hpackets
      | nil =>
          rw [Queue.look_of_nil hpackets] at hstep
          cases hgives : waiting.givesUp shared.shutdown expired with
          | true =>
              simp only [hgives, if_true] at hstep
              cases hstep
              exact .givingUp user hpackets hgives
          | false =>
              simp only [hgives, Bool.false_eq_true, if_false] at hstep
              cases hstep
              exact .lookingAgain user hpackets hgives
  | shutdown =>
      cases hstep
      exact .requesting

theorem Run.conserves {log : List (Move User × Reply)} (hrun : Run shared log last) :
    Conserves shared.queue log last.queue := by
  induction hrun with
  | nil => exact conserves_nil _
  | cons hstep _ ih => exact (step_passes hstep).conserves.append ih

/-! ## Free users -/

/-- A push never waits. -/
theorem step_push_of_idle {user : User} (hidle : shared.activity user = .idle)
    (packet : Packet) :
    shared.step (.push user packet) =
      some ({ shared with queue := (shared.queue.push packet).1 },
        .pushed (shared.queue.push packet).2) :=
  if_pos hidle

theorem step_look_of_cons {user : User} {waiting : Queue.Waiting}
    (hfree : shared.activity user = .idle ∨ shared.activity user = .waiting waiting)
    {packet : Packet} {rest : List Packet} (hpackets : shared.queue.packets = packet :: rest)
    (expired : Bool) :
    shared.step (.look user waiting expired) =
      some ({ shared with queue := { shared.queue with packets := rest } }.occupy user .idle,
        .popped (some packet)) := by
  rw [step, if_pos hfree, Queue.look_of_cons hpackets]

theorem occupy_idle {user : User} (hidle : shared.activity user = .idle) :
    shared.occupy user .idle = shared := by
  have hactivity : (shared.occupy user .idle).activity = shared.activity := by
    funext other
    by_cases hother : other = user <;> simp [occupy, hother, hidle]
  cases shared
  exact congrArg (Shared.mk _ _) hactivity

/--
A consumer that is free gets all that waits in the queue, in order, if nobody comes in
between.  It does not matter how it waits or whether the shutdown was requested.
-/
theorem emptying_run {shared : Shared User} {user : User}
    (hidle : shared.activity user = .idle) (waiting : Queue.Waiting) (expired : Bool) :
    Run shared
      (shared.queue.packets.map fun packet =>
        (.look user waiting expired, .popped (some packet)))
      { shared with queue := { shared.queue with packets := [] } } := by
  generalize hpackets : shared.queue.packets = packets
  induction packets generalizing shared with
  | nil =>
      have hqueue : { shared.queue with packets := [] } = shared.queue := by rw [← hpackets]
      rw [hqueue]
      exact .nil
  | cons packet rest ih =>
      let next := { shared with queue := { shared.queue with packets := rest } }
      have hfree : shared.activity user = .idle ∨ shared.activity user = .waiting waiting :=
        .inl hidle
      have hstep := step_look_of_cons hfree hpackets expired
      have hnext : next.occupy user .idle = next := occupy_idle hidle
      rw [hnext] at hstep
      exact .cons hstep (ih (show next.activity user = .idle from hidle) rfl)

theorem giving_up {user : User} {waiting : Queue.Waiting} {expired : Bool}
    (hstep : shared.step (.look user waiting expired) = some (next, .popped none)) :
    shared.queue.packets = [] ∧ next.queue = shared.queue ∧
      waiting.givesUp shared.shutdown expired = true := by
  generalize hqueue : next.queue = queue
  cases hqueue ▸ step_passes hstep with
  | givingUp _ hpackets hgives => exact ⟨hpackets, rfl, hgives⟩

/--
Whatever the users of a fresh queue have done so far, what entered it came out in the
same order up to what still waits.  A push answers at once, and is refused exactly when
the queue is full.  A consumer goes away with nothing only once it has been handed all
that entered, and one without a time limit only after the shutdown was requested; until
then, and after, what waits is there for whoever takes it.
-/
theorem first_in_first_out {capacity : Nat} {log : List (Move User × Reply)}
    (hrun : Run (fresh capacity) log shared) :
    entered log = takenOut log ++ shared.queue.packets ∧
      shared.queue.size ≤ capacity ∧
      offers log = (entered log).length + shared.queue.dropped ∧
      (∀ user packet, shared.activity user = .idle →
        shared.step (.push user packet) =
          if shared.queue.size = capacity then
            some ({ shared with
                queue := { shared.queue with dropped := shared.queue.dropped + 1 } },
              .pushed false)
          else
            some ({ shared with
                queue := { shared.queue with
                  packets := shared.queue.packets ++ [packet] } },
              .pushed true)) ∧
      (∀ user waiting expired next,
        shared.step (.look user waiting expired) = some (next, .popped none) →
          shared.queue.packets = [] ∧ entered log = takenOut log ∧
            next.queue = shared.queue ∧
            (waiting = .bounded → shared.shutdown = true ∨ expired = true) ∧
            (waiting = .untilShutdown → shared.shutdown = true)) ∧
      (∀ later last, Run shared later last →
        shared.queue.packets ++ entered later = takenOut later ++ last.queue.packets) ∧
      (∀ user waiting expired, shared.activity user = .idle →
        ∃ later, Run shared later
            { shared with queue := { shared.queue with packets := [] } } ∧
          (∀ entry ∈ later, entry.1 = .look user waiting expired) ∧
          takenOut later = shared.queue.packets) := by
  have hconserves := hrun.conserves
  have horder : entered log = takenOut log ++ shared.queue.packets := hconserves.order
  have hcapacity : shared.queue.capacity = capacity := hconserves.capacity_eq
  have hbounded : shared.queue.packets.length ≤ shared.queue.capacity :=
    hconserves.bounded (Nat.zero_le _)
  refine ⟨horder, hcapacity ▸ hbounded, ?_, ?_, ?_, fun _ _ hlater => hlater.conserves.order, ?_⟩
  · exact (Nat.zero_add _).symm.trans hconserves.counted
  · intro user packet hidle
    rw [step_push_of_idle hidle, Queue.size, ← hcapacity]
    by_cases hfull : shared.queue.packets.length = shared.queue.capacity
    · rw [if_pos hfull, Queue.push_of_full (Nat.le_of_eq hfull.symm)]
    · rw [if_neg hfull, Queue.push_of_room (Nat.lt_of_le_of_ne hbounded hfull)]
  · intro user waiting expired next hstep
    obtain ⟨hpackets, hqueue, hgives⟩ := giving_up hstep
    refine ⟨hpackets, by rw [horder, hpackets, List.append_nil], hqueue, ?_, ?_⟩
    · rintro rfl
      simpa [Queue.Waiting.givesUp] using hgives
    · rintro rfl
      exact hgives
  · intro user waiting expired hidle
    refine ⟨_, emptying_run hidle waiting expired, ?_, takenOut_emptying ..⟩
    intro entry hmem
    obtain ⟨packet, -, rfl⟩ := List.mem_map.mp hmem
    rfl

end

/--
A consumer waits, a producer fills the queue of one place and is refused once, the
shutdown is requested, and the consumer gets what had entered before it gets nothing.
-/
theorem first_in_first_out_late :
    let packet : Packet := ⟨⟨7, 0, 2, 1⟩, [10], false, rfl, by decide⟩
    let second : Packet := ⟨⟨7, 1, 2, 1⟩, [20], false, rfl, by decide⟩
    let log : List (Move Bool × Reply) :=
      [(.look false .untilShutdown true, .again), (.push true packet, .pushed true),
        (.push true second, .pushed false), (.shutdown, .requested),
        (.look false .untilShutdown true, .popped (some packet)),
        (.look false .untilShutdown true, .popped none)]
    ∃ last : Shared Bool, Run (fresh 1) log last ∧ entered log = [packet] ∧
      takenOut log = [packet] ∧ offers log = 2 ∧ last.queue.dropped = 1 ∧
      last.queue.packets = [] := by
  intro packet second log
  have hrun : ∃ last : Shared Bool, Run (fresh 1) log last :=
    ⟨_, .cons rfl (.cons rfl (.cons rfl (.cons rfl (.cons rfl (.cons rfl .nil)))))⟩
  obtain ⟨last, hrun⟩ := hrun
  obtain ⟨horder, -, hoffers, -⟩ := first_in_first_out hrun
  have hpackets : last.queue.packets = [] := List.self_eq_append_right.mp horder
  have hdropped : last.queue.dropped = 1 := by
    have hcount : 2 = 1 + last.queue.dropped := hoffers
    omega
  exact ⟨last, hrun, rfl, rfl, rfl, hdropped, hpackets⟩

end Shared

end Framecast.Reception
