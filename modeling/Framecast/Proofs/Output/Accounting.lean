import Framecast.Output.Writer
import Framecast.Proofs.Output.Contents
import Framecast.Proofs.Statistics.Totals

/-!
# Accounting for the frames of a run

Whatever the order in which the sending side and the writer make their moves, a frame is
counted once, and then it is in the channel, with the writer, or counted as dropped.
A writer that finished has got everything that was not dropped, so that the counters of
the report add up.
-/

namespace Framecast.Output

open Framecast.Assembly (Frame)
open Framecast.Files (Tree)
open Framecast.Statistics (Tally)

/-! ## The channel -/

namespace Handoff

variable {handoff : Handoff} {channel : Channel} {frame : Frame} {rest : List Frame}

theorem send_of_room (hchannel : handoff.channel = some channel)
    (hopen : channel.isOpen = true) (hroom : channel.frames.length < channel.capacity)
    (frame : Frame) :
    (handoff.send frame).1 =
      ⟨some { channel with frames := channel.frames ++ [frame] }, handoff.tally.add frame,
        handoff.dropped⟩ := by
  unfold send
  simp [hchannel, hopen, Nat.not_le.mpr hroom]

/-- A frame that is not taken is counted all the same. -/
theorem send_of_refused (hchannel : handoff.channel = some channel)
    (hrefused : channel.isOpen = false ∨ channel.capacity ≤ channel.frames.length)
    (frame : Frame) :
    (handoff.send frame).1 =
      ⟨some channel, handoff.tally.add frame, handoff.dropped + 1⟩ := by
  unfold send
  cases hopen : channel.isOpen with
  | false => simp [hchannel, hopen]
  | true =>
      have hfull : channel.capacity ≤ channel.frames.length := by simpa [hopen] using hrefused
      simp [hchannel, hopen, hfull]

theorem receive_of_cons (hchannel : handoff.channel = some channel)
    (hframes : channel.frames = frame :: rest) :
    handoff.receive =
      ({ handoff with channel := some { channel with frames := rest } }, some frame) := by
  simp [receive, hchannel, hframes]

theorem receive_of_nil (hchannel : handoff.channel = some channel)
    (hframes : channel.frames = []) : handoff.receive = (handoff, none) := by
  simp [receive, hchannel, hframes]

theorem close_channel (hchannel : handoff.channel = some channel) :
    handoff.close.channel = some { channel with frames := [], isOpen := false } := by
  simp [close, hchannel]

end Handoff

/-! ## The files -/

namespace Directory

theorem writeFiles_result (tree : Tree) (files : List (String × Bytes)) :
    (writeFiles tree files).2 = .ok () ∨
      ∃ path fault, (writeFiles tree files).2 = .error (.cannotWrite path fault) := by
  induction files generalizing tree with
  | nil => exact .inl rfl
  | cons file rest ih =>
      unfold writeFiles
      cases hwrite : tree.write file.1 file.2 with
      | error fault => exact .inr ⟨file.1, fault, rfl⟩
      | ok next => exact ih next

/-- A frame with a header is written unless a file cannot be. -/
theorem write_result {frame : Frame} (h : hasHeader frame = true) (directory : Directory)
    (tree : Tree) :
    (directory.write tree frame).result = .ok () ∨
      ∃ path fault, (directory.write tree frame).result = .error (.cannotWrite path fault) := by
  unfold write
  rw [if_neg (Nat.not_lt.mpr (of_decide_eq_true h))]
  exact writeFiles_result tree _

/-- A further frame is written into what the others have left. -/
theorem writeEach_concat (directory : Directory) (tree : Tree) (frames : List Frame)
    (frame : Frame) :
    (directory.writeEach tree (frames ++ [frame])).1 =
        (directory.write (directory.writeEach tree frames).1 frame).tree ∧
      (directory.writeEach tree (frames ++ [frame])).2.1 =
        match (directory.write (directory.writeEach tree frames).1 frame).result with
        | .ok () => (directory.writeEach tree frames).2.1 + 1
        | .error _ => (directory.writeEach tree frames).2.1 := by
  induction frames generalizing tree with
  | nil =>
      simp only [List.nil_append, writeEach]
      cases (directory.write tree frame).result <;> exact ⟨rfl, rfl⟩
  | cons first rest ih =>
      obtain ⟨htree, hcount⟩ := ih (directory.write tree first).tree
      simp only [List.cons_append, writeEach]
      cases (directory.write tree first).result with
      | ok =>
          refine ⟨htree, ?_⟩
          simp only [hcount]
          split <;> rfl
      | error cause => exact ⟨htree, hcount⟩

end Directory

namespace Writer

variable {directory : Directory} {start : Tree} {capacity : Nat}
  {log : List (Move × Reply)} {writer next : Writer} {channel : Channel} {move : Move}
  {reply : Reply}

/-! ## What a run tells -/

def sent (log : List (Move × Reply)) : List Frame :=
  log.filterMap fun
    | (.send frame, _) => some frame
    | _ => none

def accepted (log : List (Move × Reply)) : List Frame :=
  log.filterMap fun
    | (.send frame, .sent false) => some frame
    | _ => none

def received (log : List (Move × Reply)) : List Frame :=
  log.filterMap fun
    | (_, .took frame) => some frame
    | _ => none

def handled (log : List (Move × Reply)) : List Frame :=
  log.filterMap fun
    | (_, .wrote frame _) => some frame
    | _ => none

/-- How many frames could not be written because of a file. -/
def faults (log : List (Move × Reply)) : Nat :=
  log.countP fun
    | (_, .wrote _ (.error (.cannotWrite _ _))) => true
    | _ => false

@[simp] theorem sent_append (log later : List (Move × Reply)) :
    sent (log ++ later) = sent log ++ sent later := List.filterMap_append

@[simp] theorem accepted_append (log later : List (Move × Reply)) :
    accepted (log ++ later) = accepted log ++ accepted later := List.filterMap_append

@[simp] theorem received_append (log later : List (Move × Reply)) :
    received (log ++ later) = received log ++ received later := List.filterMap_append

@[simp] theorem handled_append (log later : List (Move × Reply)) :
    handled (log ++ later) = handled log ++ handled later := List.filterMap_append

@[simp] theorem faults_append (log later : List (Move × Reply)) :
    faults (log ++ later) = faults log + faults later := List.countP_append

def Phase.inHand : Phase → List Frame
  | .writing frame => [frame]
  | _ => []

/-! ## What the sending side counts -/

structure Counts (log : List (Move × Reply)) (handoff : Handoff) : Prop where
  tally_eq : handoff.tally = Tally.addAll {} (sent log)
  sent_eq : (sent log).length = (accepted log).length + handoff.dropped

/-- A frame is counted once, and once more if it is dropped. -/
theorem Counts.send {handoff after : Handoff} {frame : Frame} {dropped : Bool}
    (h : Counts log handoff) (htally : after.tally = handoff.tally.add frame)
    (hdropped : after.dropped = handoff.dropped + dropped.toNat) :
    Counts (log ++ [(.send frame, .sent dropped)]) after := by
  have hsent := h.sent_eq
  constructor
  · rw [htally, h.tally_eq]
    simp [sent, Tally.addAll]
  · rw [sent_append, accepted_append, List.length_append, List.length_append, hdropped]
    cases dropped <;>
      simp only [sent, accepted, List.filterMap_cons, List.filterMap_nil, List.length_singleton,
        List.length_nil, Bool.toNat_true, Bool.toNat_false] at hsent ⊢ <;>
      omega

/-- Other moves count nothing. -/
theorem Counts.of_same {handoff after : Handoff} (h : Counts log handoff)
    (hsent : sent [(move, reply)] = []) (haccepted : accepted [(move, reply)] = [])
    (htally : after.tally = handoff.tally) (hdropped : after.dropped = handoff.dropped) :
    Counts (log ++ [(move, reply)]) after := by
  constructor
  · rw [sent_append, hsent, List.append_nil, htally, h.tally_eq]
  · rw [sent_append, accepted_append, hsent, haccepted, List.append_nil, List.append_nil,
      hdropped, h.sent_eq]

/-! ## What passes through the channel -/

structure Passes (capacity : Nat) (log : List (Move × Reply)) (writer : Writer)
    (channel : Channel) : Prop where
  channel_eq : writer.handoff.channel = some channel
  capacity_eq : channel.capacity = max capacity 1
  bounded : channel.frames.length ≤ channel.capacity
  open_eq : channel.isOpen = writer.phase.isRunning
  order : writer.phase ≠ .stopped → received log ++ channel.frames = accepted log
  ended : writer.phase = .finished → channel.frames = [] ∧ writer.sending = false
  counts : Counts log writer.handoff

theorem passes_fresh (directory : Directory) (start : Tree) (capacity : Nat) :
    Passes capacity [] (fresh directory start capacity) ⟨max capacity 1, [], true⟩ where
  channel_eq := rfl
  capacity_eq := rfl
  bounded := Nat.zero_le _
  open_eq := rfl
  order := fun _ => rfl
  ended := nofun
  counts := ⟨rfl, rfl⟩

/-- A frame goes into the channel, or is counted as dropped; nobody waits. -/
theorem step_send (hsending : writer.sending = true)
    (hchannel : writer.handoff.channel = some channel) (frame : Frame) :
    (channel.isOpen = true ∧ channel.frames.length < channel.capacity ∧
      writer.step (.send frame) =
        some ({ writer with
            handoff := ⟨some { channel with frames := channel.frames ++ [frame] },
              writer.handoff.tally.add frame, writer.handoff.dropped⟩ }, .sent false)) ∨
    ((channel.isOpen = false ∨ channel.capacity ≤ channel.frames.length) ∧
      writer.step (.send frame) =
        some ({ writer with
            handoff := ⟨some channel, writer.handoff.tally.add frame,
              writer.handoff.dropped + 1⟩ }, .sent true)) := by
  unfold step
  by_cases hroom : channel.isOpen = true ∧ channel.frames.length < channel.capacity
  · refine .inl ⟨hroom.1, hroom.2, ?_⟩
    simp [hsending, Handoff.send_of_room hchannel hroom.1 hroom.2]
  · have hrefused : channel.isOpen = false ∨ channel.capacity ≤ channel.frames.length := by
      simpa [Decidable.imp_iff_not_or] using hroom
    refine .inr ⟨hrefused, ?_⟩
    simp [hsending, Handoff.send_of_refused hchannel hrefused]

/-- An empty channel ends the writer, unless there is somebody left to send. -/
theorem step_take (hchannel : writer.handoff.channel = some channel)
    (hstep : writer.step .take = some (next, reply)) :
    writer.phase = .asking ∧
      ((∃ frame rest, channel.frames = frame :: rest ∧ reply = .took frame ∧
          next = { writer with
            handoff := { writer.handoff with
              channel := some { channel with frames := rest } },
            phase := .writing frame }) ∨
        (channel.frames = [] ∧ reply = .waiting ∧ next = writer) ∨
        (channel.frames = [] ∧ writer.sending = false ∧ reply = .finished ∧
          next = { writer with handoff := writer.handoff.close, phase := .finished })) := by
  simp only [step, Option.ite_none_right_eq_some] at hstep
  obtain ⟨hphase, hstep⟩ := hstep
  cases hframes : channel.frames with
  | cons frame rest =>
      rw [Handoff.receive_of_cons hchannel hframes] at hstep
      cases hstep
      exact ⟨hphase, .inl ⟨frame, rest, rfl, rfl, rfl⟩⟩
  | nil =>
      rw [Handoff.receive_of_nil hchannel hframes] at hstep
      by_cases hsending : writer.sending = true
      · simp only [if_pos hsending] at hstep
        cases hstep
        exact ⟨hphase, .inr (.inl ⟨rfl, rfl, rfl⟩)⟩
      · simp only [if_neg hsending] at hstep
        cases hstep
        exact ⟨hphase, .inr (.inr ⟨rfl, Bool.eq_false_iff.mpr hsending, rfl, rfl⟩)⟩

theorem step_write (hstep : writer.step .write = some (next, reply)) :
    ∃ frame, writer.phase = .writing frame ∧
      reply = .wrote frame (writer.directory.write writer.tree frame).result ∧
      next = { writer with
        phase := .asking
        tree := (writer.directory.write writer.tree frame).tree
        written := match (writer.directory.write writer.tree frame).result with
          | .ok () => writer.written + 1
          | .error _ => writer.written } := by
  unfold step at hstep
  cases hphase : writer.phase with
  | writing frame =>
      simp only [hphase] at hstep
      cases hstep
      exact ⟨frame, rfl, rfl, rfl⟩
  | asking | finished | stopped =>
      simp only [hphase] at hstep
      cases hstep

theorem Passes.send (h : Passes capacity log writer channel) {frame : Frame}
    (hstep : writer.step (.send frame) = some (next, reply)) :
    ∃ channel, Passes capacity (log ++ [(.send frame, reply)]) next channel := by
  have hsending : writer.sending = true := by
    unfold step at hstep
    by_contra hgone
    simp [hgone] at hstep
  rcases step_send hsending h.channel_eq frame with ⟨-, hroom, hsend⟩ | ⟨-, hsend⟩ <;>
    rw [hsend] at hstep <;> cases hstep
  · refine ⟨_, rfl, h.capacity_eq, ?_, h.open_eq, fun hphase => ?_, fun hphase => ?_,
      h.counts.send rfl rfl⟩
    · simp only [List.length_append, List.length_singleton]
      omega
    · have horder := h.order hphase
      rw [accepted_append, ← horder]
      simp [received, accepted]
    · exact absurd hsending (by simp [(h.ended hphase).2])
  · refine ⟨channel, rfl, h.capacity_eq, h.bounded, h.open_eq, fun hphase => ?_, h.ended,
      h.counts.send rfl rfl⟩
    simpa [received, accepted] using h.order hphase

theorem Passes.take (h : Passes capacity log writer channel)
    (hstep : writer.step .take = some (next, reply)) :
    ∃ channel, Passes capacity (log ++ [(.take, reply)]) next channel := by
  obtain ⟨hphase, hcases⟩ := step_take h.channel_eq hstep
  have horder := h.order (by simp [hphase])
  have hopen := h.open_eq
  have hbounded := h.bounded
  rw [hphase] at hopen
  rcases hcases with ⟨frame, rest, hframes, rfl, rfl⟩ | ⟨hframes, rfl, rfl⟩ |
    ⟨hframes, hsending, rfl, rfl⟩
  · rw [hframes, List.length_cons] at hbounded
    refine ⟨_, rfl, h.capacity_eq, Nat.le_of_succ_le hbounded, hopen, fun _ => ?_, nofun,
      h.counts.of_same rfl rfl rfl rfl⟩
    rw [hframes] at horder
    simpa [received, accepted] using horder
  · refine ⟨channel, h.channel_eq, h.capacity_eq, hbounded, h.open_eq, fun _ => ?_, h.ended,
      h.counts.of_same rfl rfl rfl rfl⟩
    simpa [received, accepted] using horder
  · -- the channel is empty, so that nothing is lost with it
    refine ⟨_, Handoff.close_channel h.channel_eq, h.capacity_eq, Nat.zero_le _, rfl,
      fun _ => ?_, fun _ => ⟨rfl, hsending⟩, h.counts.of_same rfl rfl rfl rfl⟩
    rw [hframes] at horder
    simpa [received, accepted] using horder

theorem Passes.write (h : Passes capacity log writer channel)
    (hstep : writer.step .write = some (next, reply)) :
    Passes capacity (log ++ [(.write, reply)]) next channel := by
  obtain ⟨frame, hphase, rfl, rfl⟩ := step_write hstep
  have horder := h.order (by simp [hphase])
  refine ⟨h.channel_eq, h.capacity_eq, h.bounded, ?_, fun _ => ?_, nofun,
    h.counts.of_same rfl rfl rfl rfl⟩
  · simpa [hphase, Phase.isRunning] using h.open_eq
  · simpa [received, accepted] using horder

theorem Passes.leave (h : Passes capacity log writer channel)
    (hstep : writer.step .leave = some (next, reply)) :
    Passes capacity (log ++ [(.leave, reply)]) next channel := by
  simp only [step, Option.ite_none_right_eq_some] at hstep
  obtain ⟨-, hstep⟩ := hstep
  cases hstep
  refine ⟨h.channel_eq, h.capacity_eq, h.bounded, h.open_eq, fun hphase => ?_,
    fun hphase => ⟨(h.ended hphase).1, rfl⟩, h.counts.of_same rfl rfl rfl rfl⟩
  simpa [received, accepted] using h.order hphase

/-- What was under way when the writer stopped is lost, but it stays counted. -/
theorem Passes.stop (h : Passes capacity log writer channel)
    (hstep : writer.step .stop = some (next, reply)) :
    ∃ channel, Passes capacity (log ++ [(.stop, reply)]) next channel := by
  simp only [step, Option.ite_none_right_eq_some] at hstep
  obtain ⟨-, hstep⟩ := hstep
  cases hstep
  exact ⟨_, Handoff.close_channel h.channel_eq, h.capacity_eq, Nat.zero_le _, rfl,
    fun hphase => absurd rfl hphase, nofun, h.counts.of_same rfl rfl rfl rfl⟩

theorem Passes.step (h : Passes capacity log writer channel)
    (hstep : writer.step move = some (next, reply)) :
    ∃ channel, Passes capacity (log ++ [(move, reply)]) next channel := by
  cases move with
  | send frame => exact h.send hstep
  | leave => exact ⟨channel, h.leave hstep⟩
  | take => exact h.take hstep
  | write => exact ⟨channel, h.write hstep⟩
  | stop => exact h.stop hstep

/-! ## What the writer makes of the frames -/

structure Works (directory : Directory) (start : Tree) (log : List (Move × Reply))
    (writer : Writer) : Prop where
  directory_eq : writer.directory = directory
  hand : writer.phase ≠ .stopped → received log = handled log ++ writer.phase.inHand
  tree_eq : writer.tree = (directory.writeEach start (handled log)).1
  written_eq : writer.written = (directory.writeEach start (handled log)).2.1
  handled_eq : (handled log).length =
    writer.written + (handled log).countP (fun frame => !hasHeader frame) + faults log

theorem works_fresh (directory : Directory) (start : Tree) (capacity : Nat) :
    Works directory start [] (fresh directory start capacity) :=
  ⟨rfl, fun _ => rfl, rfl, rfl, rfl⟩

/-- A move that is not the end of a writing leaves the files as they are. -/
theorem Works.of_same (h : Works directory start log writer)
    (hhandled : handled [(move, reply)] = []) (hfaults : faults [(move, reply)] = 0)
    (hdirectory : next.directory = writer.directory) (htree : next.tree = writer.tree)
    (hwritten : next.written = writer.written)
    (hhand : next.phase ≠ .stopped →
      received log ++ received [(move, reply)] = handled log ++ next.phase.inHand) :
    Works directory start (log ++ [(move, reply)]) next := by
  constructor <;> simp only [received_append, handled_append, faults_append, hhandled, hfaults,
    List.append_nil, Nat.add_zero, hdirectory, htree, hwritten]
  case directory_eq => exact h.directory_eq
  case hand => exact hhand
  case tree_eq => exact h.tree_eq
  case written_eq => exact h.written_eq
  case handled_eq => exact h.handled_eq

/-- A frame is written, too short, or stopped by a file. -/
theorem count_wrote (directory : Directory) (tree : Tree) (frame : Frame) (written : Nat) :
    written + 1 =
      (match (directory.write tree frame).result with
        | .ok () => written + 1
        | .error _ => written) +
      [frame].countP (fun frame => !hasHeader frame) +
      faults [(.write, .wrote frame (directory.write tree frame).result)] := by
  cases hheader : hasHeader frame with
  | true =>
      rcases Directory.write_result hheader directory tree with hresult | ⟨path, fault, hresult⟩ <;>
        simp [hresult, hheader, faults]
  | false =>
      have hshort : frame.data.length < Image.headerSize :=
        Nat.lt_of_not_le (of_decide_eq_false hheader)
      simp [Directory.write_of_short directory tree hshort, hheader, faults]

theorem Works.write (h : Works directory start log writer)
    (hstep : writer.step .write = some (next, reply)) :
    Works directory start (log ++ [(.write, reply)]) next := by
  obtain ⟨frame, hphase, rfl, rfl⟩ := step_write hstep
  obtain rfl := h.directory_eq
  have hhand := h.hand (by simp [hphase])
  have hhandled := h.handled_eq
  have hcount := count_wrote writer.directory writer.tree frame writer.written
  have hone : handled [(.write, .wrote frame (writer.directory.write writer.tree frame).result)] =
      [frame] := rfl
  obtain ⟨htree, hwritten⟩ := writer.directory.writeEach_concat start (handled log) frame
  rw [← h.tree_eq] at htree hwritten
  rw [← h.written_eq] at hwritten
  refine ⟨rfl, fun _ => ?_, ?_, ?_, ?_⟩
  · rw [hphase] at hhand
    rw [received_append, handled_append, hone, hhand]
    rfl
  · rw [handled_append, hone, htree]
  · rw [handled_append, hone, hwritten]
  · rw [handled_append, hone, faults_append, List.length_append, List.countP_append,
      List.length_singleton]
    dsimp only
    omega

theorem Works.step (hchannel : writer.handoff.channel = some channel)
    (h : Works directory start log writer) (hstep : writer.step move = some (next, reply)) :
    Works directory start (log ++ [(move, reply)]) next := by
  cases move with
  | send frame | leave =>
      simp only [Writer.step, Option.ite_none_right_eq_some] at hstep
      obtain ⟨-, hstep⟩ := hstep
      cases hstep
      exact h.of_same rfl rfl rfl rfl rfl fun hphase => (List.append_nil _).trans (h.hand hphase)
  | take =>
      obtain ⟨hphase, hcases⟩ := step_take hchannel hstep
      have hhand : received log = handled log := by
        simpa [hphase, Phase.inHand] using h.hand (by simp [hphase])
      rcases hcases with ⟨frame, rest, -, rfl, rfl⟩ | ⟨-, rfl, rfl⟩ | ⟨-, -, rfl, rfl⟩
      · exact h.of_same rfl rfl rfl rfl rfl fun _ => congrArg (· ++ [frame]) hhand
      · exact h.of_same rfl rfl rfl rfl rfl fun hphase =>
          (List.append_nil _).trans (h.hand hphase)
      · exact h.of_same rfl rfl rfl rfl rfl fun _ => by simpa [received, Phase.inHand] using hhand
  | write => exact h.write hstep
  | stop =>
      simp only [Writer.step, Option.ite_none_right_eq_some] at hstep
      obtain ⟨-, hstep⟩ := hstep
      cases hstep
      exact h.of_same rfl rfl rfl rfl rfl fun hphase => absurd rfl hphase

/-! ## A whole run -/

theorem Run.accounts {last : Writer} {seen : List (Move × Reply)} (hrun : Run writer log last)
    (hpasses : Passes capacity seen writer channel) (hworks : Works directory start seen writer) :
    (∃ channel, Passes capacity (seen ++ log) last channel) ∧
      Works directory start (seen ++ log) last := by
  induction hrun generalizing seen channel with
  | nil =>
      rw [List.append_nil]
      exact ⟨⟨channel, hpasses⟩, hworks⟩
  | cons hstep _ ih =>
      obtain ⟨_, hnext⟩ := hpasses.step hstep
      rw [List.append_cons]
      exact ih hnext (hworks.step hpasses.channel_eq hstep)

/-- The sending side never waits, and drops what a full or abandoned channel does not take. -/
theorem Passes.send_eq (h : Passes capacity log writer channel) (hsending : writer.sending = true)
    (frame : Frame) :
    ∃ next dropped, writer.step (.send frame) = some (next, .sent dropped) ∧
      (dropped = true ↔
        channel.frames.length = channel.capacity ∨ channel.isOpen = false) ∧
      next.handoff.dropped = writer.handoff.dropped + dropped.toNat ∧
      next.handoff.tally = writer.handoff.tally.add frame := by
  have hbounded := h.bounded
  rcases step_send hsending h.channel_eq frame with ⟨hopen, hroom, hsend⟩ | ⟨hrefused, hsend⟩
  · refine ⟨_, false, hsend, ?_, rfl, rfl⟩
    simp [hopen, Nat.ne_of_lt hroom]
  · refine ⟨_, true, hsend, ?_, rfl, rfl⟩
    rcases hrefused with hclosed | hfull
    · simp [hclosed]
    · simp [Nat.le_antisymm hbounded hfull]

structure Accounted (directory : Directory) (start : Tree) (capacity : Nat)
    (log : List (Move × Reply)) (last : Writer) (channel : Channel) : Prop where
  channel_eq : last.handoff.channel = some channel
  capacity_eq : channel.capacity = max capacity 1
  bounded : channel.frames.length ≤ channel.capacity
  open_eq : channel.isOpen = last.phase.isRunning
  /-- Until the receiver goes, nothing is lost, doubled or moved. -/
  order : channel.isOpen = true → received log ++ channel.frames = accepted log
  total_eq : channel.isOpen = true →
    last.handoff.tally.total =
      (received log).length + channel.frames.length + last.handoff.dropped
  /-- The next frame is counted, and dropped for one of two reasons only. -/
  send_eq : ∀ frame, last.sending = true → ∃ next dropped,
    last.step (.send frame) = some (next, .sent dropped) ∧
      (dropped = true ↔
        channel.frames.length = channel.capacity ∨ channel.isOpen = false) ∧
      next.handoff.dropped = last.handoff.dropped + dropped.toNat ∧
      next.handoff.tally = last.handoff.tally.add frame
  tally_eq : last.handoff.tally = Tally.addAll {} (sent log)
  total_sent : last.handoff.tally.total = (sent log).length
  /-- A writer that finished has got what was not dropped, and has written all of it. -/
  finished_order : last.phase = .finished → last.sending = false ∧ received log = accepted log
  finished_files : last.phase = .finished →
    last.tree = (directory.writeAll start (received log)).1 ∧
      last.written = (directory.writeAll start (received log)).2.1
  /-- The counters of the report add up unless a file could not be written. -/
  finished_total : last.phase = .finished → faults log = 0 →
    last.handoff.tally.total =
      last.written + (received log).countP (fun frame => !hasHeader frame) +
        last.handoff.dropped

theorem Works.received_eq (h : Works directory start log writer)
    (hphase : writer.phase = .finished) : received log = handled log := by
  simpa [hphase, Phase.inHand] using h.hand (by simp [hphase])

theorem Passes.received_eq (h : Passes capacity log writer channel)
    (hphase : writer.phase = .finished) : received log = accepted log := by
  simpa [(h.ended hphase).1] using h.order (by simp [hphase])

theorem Passes.order_of_open (h : Passes capacity log writer channel)
    (hopen : channel.isOpen = true) : received log ++ channel.frames = accepted log := by
  refine h.order fun hphase => ?_
  rw [h.open_eq, hphase] at hopen
  exact absurd hopen (by decide)

/-- A frame that was sent is counted, and is dropped or goes to the writer in its turn; at
the end the counters of the report tell what became of all of them. -/
theorem every_frame_is_accounted_for {last : Writer}
    (hrun : Run (fresh directory start capacity) log last) :
    ∃ channel, Accounted directory start capacity log last channel := by
  obtain ⟨⟨channel, hpasses⟩, hworks⟩ :=
    hrun.accounts (passes_fresh directory start capacity) (works_fresh directory start capacity)
  rw [List.nil_append] at hpasses hworks
  have hsent := hpasses.counts.sent_eq
  have htotal : last.handoff.tally.total = (sent log).length := by
    rw [hpasses.counts.tally_eq]
    exact (Tally.totals_addAll (sent log)).total_eq
  refine ⟨channel, ?_⟩
  constructor
  case channel_eq => exact hpasses.channel_eq
  case capacity_eq => exact hpasses.capacity_eq
  case bounded => exact hpasses.bounded
  case open_eq => exact hpasses.open_eq
  case order => exact hpasses.order_of_open
  case total_eq =>
    intro hopen
    rw [htotal, hsent, ← hpasses.order_of_open hopen, List.length_append]
  case send_eq => exact fun frame hsending => hpasses.send_eq hsending frame
  case tally_eq => exact hpasses.counts.tally_eq
  case total_sent => exact htotal
  case finished_order =>
    exact fun hphase => ⟨(hpasses.ended hphase).2, hpasses.received_eq hphase⟩
  case finished_files =>
    intro hphase
    rw [hworks.received_eq hphase]
    exact ⟨hworks.tree_eq, hworks.written_eq⟩
  case finished_total =>
    intro hphase hfaults
    have hhandled := hworks.handled_eq
    rw [← hworks.received_eq hphase] at hhandled
    rw [htotal, hsent, ← hpasses.received_eq hphase]
    omega

/--
The second frame finds no room and is dropped; the writer still gets the third after the
sending side has gone, but it is too short to be written.
-/
theorem every_frame_is_accounted_for_backlog :
    let frame (id : UInt32) (data : Bytes) : Frame :=
      ⟨id, .complete, true, false, false, 1, 1, data⟩
    let first := frame 1 (List.replicate 16 0)
    let second := frame 2 (List.replicate 16 0)
    let third := frame 3 [9]
    let directory : Directory := ⟨"out"⟩
    let start : Tree := ⟨[(⟨"/out"⟩, .directory)], .root⟩
    let log : List (Move × Reply) :=
      [(.send first, .sent false), (.send second, .sent true), (.take, .took first),
        (.send third, .sent false), (.leave, .left),
        (.write, .wrote first (directory.write start first).result), (.take, .took third),
        (.write, .wrote third (.error (.tooShort 3 1))), (.take, .finished)]
    ∃ last, Run (fresh directory start 1) log last ∧ last.phase = .finished ∧
      faults log = 0 ∧ received log = [first, third] ∧ last.written = 1 ∧
      last.handoff.dropped = 1 ∧ last.handoff.tally.total = 3 := by
  intro frame first second third directory start log
  have hresult : (directory.write start first).result = .ok () := by
    have hwritten : (directory.write start first).result.toOption = some () := by
      decide +kernel
    cases hcases : (directory.write start first).result with
    | ok => rfl
    | error cause => simp [hcases, Except.toOption] at hwritten
  have hrun : ∃ last, Run (fresh directory start 1) log last ∧ last.phase = .finished ∧
      last.handoff.dropped = 1 :=
    ⟨_, .cons rfl (.cons rfl (.cons rfl (.cons rfl (.cons rfl (.cons rfl (.cons rfl
      (.cons rfl (.cons rfl .nil)))))))), rfl, rfl⟩
  obtain ⟨last, hrun, hphase, hdropped⟩ := hrun
  obtain ⟨channel, haccounted⟩ := every_frame_is_accounted_for hrun
  have hfaults : faults log = 0 := by simp [log, faults, hresult]
  have hthree : last.handoff.tally.total = 3 := haccounted.total_sent
  have hsum : last.handoff.tally.total = last.written + 1 + last.handoff.dropped :=
    haccounted.finished_total hphase hfaults
  have hwritten : last.written = 1 := by omega
  exact ⟨last, hrun, hphase, hfaults, rfl, hwritten, hdropped, hthree⟩

end Writer

end Framecast.Output
