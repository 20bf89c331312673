import Mathlib.Data.List.DropRight
import Mathlib.Data.List.Sort
import Framecast.Observation.Observer
import Framecast.Reassembly.Basic

/-!
# A trace is the end of its history

Whatever reaches a trace, it holds the last entries of the history, as many as its
capacity allows, each with its place in the history.  Seen from the slot that is
overwritten next, recording drops the slot in front and appends the new entry; the
entries are what is left of the slots once the unused ones are left out.
-/

namespace Framecast.Observation

open Framecast.Assembly (Event Settings)

inductive Notice where
  | direct (fact : TraceFact)
  /-- A packet, as the network delivered it. -/
  | received (header : Datagram.Header) (gap : Bool)
  | event (event : Event)
deriving Repr, DecidableEq

def Notice.fact? : Notice → Option TraceFact
  | .direct fact => some fact
  | .received header gap =>
      some ⟨.received, header.frameId, header.packetId, header.packetCount.toNat,
        header.payloadSize.toNat, gap⟩
  | .event (.accepted frameId packetId packetCount payloadSize gap) =>
      some ⟨.accepted, frameId, packetId, packetCount, payloadSize, gap⟩
  | .event (.missing frameId packetId packetCount) =>
      some ⟨.missing, frameId, packetId, packetCount, 0, false⟩
  | .event _ => none

def history (facts : List TraceFact) : List TraceEntry :=
  facts.zipIdx.map fun (fact, number) => ⟨number, fact⟩

theorem length_history (facts : List TraceFact) : (history facts).length = facts.length := by
  rw [history, List.length_map, List.length_zipIdx]

theorem history_concat (facts : List TraceFact) (fact : TraceFact) :
    history (facts ++ [fact]) = history facts ++ [⟨facts.length, fact⟩] := by
  simp [history, List.zipIdx_append]

theorem map_fact_history (facts : List TraceFact) :
    (history facts).map TraceEntry.fact = facts := by
  rw [history, List.map_map]
  exact List.zipIdx_map_fst 0 facts

theorem map_sequence_history (facts : List TraceFact) :
    (history facts).map TraceEntry.sequence = List.range facts.length := by
  rw [history, List.map_map, List.range_eq_range']
  exact List.zipIdx_map_snd 0 facts

theorem tail_rtake_append {α : Type} {items : List α} {count : Nat} (hpositive : 0 < count)
    (hlong : count ≤ items.length) (item : α) :
    (items.rtake count).tail ++ [item] = (items ++ [item]).rtake count := by
  have hfirst : (items ++ [item]).length - count = items.length - count + 1 := by
    rw [List.length_append, List.length_singleton]
    omega
  rw [List.rtake, List.rtake, hfirst, List.drop_append_of_le_length (by omega),
    List.tail_drop]

namespace Trace

def note (trace : Trace) : Notice → Trace
  | .direct fact => trace.record fact
  | .received header gap => trace.recordReceived header gap
  | .event event => trace.observe event

def noteAll (trace : Trace) (notices : List Notice) : Trace :=
  notices.foldl note trace

theorem note_eq (trace : Trace) (notice : Notice) :
    trace.note notice = notice.fact?.elim trace trace.record := by
  rcases notice with fact | ⟨header, gap⟩ | event
  · rfl
  · rfl
  · cases event <;> rfl

/-! ## Once around the ring -/

/-- The slots from the one that is overwritten next, once around. -/
def around (trace : Trace) : List (Option TraceEntry) :=
  trace.slots.toList.drop (trace.recorded % trace.slots.size) ++
    trace.slots.toList.take (trace.recorded % trace.slots.size)

theorem entries_eq (trace : Trace) : trace.entries = trace.around.filterMap id := rfl

theorem around_perm (trace : Trace) : trace.around.Perm trace.slots.toList := by
  have hcut := List.take_append_drop (trace.recorded % trace.slots.size) trace.slots.toList
  exact List.perm_append_comm.trans (List.Perm.of_eq hcut)

/-- Where one place of a list is overwritten, the list seen from the next place on has
lost its first item and gained one at its end. -/
theorem rotate_set {α : Type} {items : List α} {next : Nat} (hnext : next < items.length)
    (item : α) :
    (items.set next item).drop ((next + 1) % items.length) ++
        (items.set next item).take ((next + 1) % items.length) =
      (items.drop next ++ items.take next).tail ++ [item] := by
  have hhead : items.drop next = items[next] :: items.drop (next + 1) :=
    List.drop_eq_getElem_cons hnext
  rw [hhead, List.cons_append, List.tail_cons, List.append_assoc]
  by_cases hlast : next + 1 < items.length
  · rw [Nat.mod_eq_of_lt hlast, List.drop_set_of_lt (Nat.lt_succ_self next)]
    congr 1
    rw [List.take_succ_eq_append_getElem (by simpa using hnext),
      List.take_set_of_le (Nat.le_refl _), List.getElem_set_self]
  · have hend : next + 1 = items.length := by omega
    rw [← hend, Nat.mod_self, List.drop_zero, List.take_zero, List.append_nil]
    rw [List.drop_eq_nil_of_le (by omega), List.nil_append]
    rw [List.set_eq_take_append_cons_drop, if_pos hnext, List.drop_eq_nil_of_le (by omega)]

theorem around_record {trace : Trace} (h : 0 < trace.slots.size) (fact : TraceFact) :
    (trace.record fact).around = trace.around.tail ++ [some ⟨trace.recorded, fact⟩] := by
  have hnext : trace.recorded % trace.slots.size < trace.slots.toList.length :=
    Nat.mod_lt _ h
  have hrotated := rotate_set hnext (some (⟨trace.recorded, fact⟩ : TraceEntry))
  rw [Array.length_toList, Nat.mod_add_mod] at hrotated
  rw [around, around, ← hrotated, record, Array.size_setIfInBounds, Array.toList_setIfInBounds]

/-! ## What a trace recalls -/

/-- The trace has recorded the given facts, and its slots hold the last of them. -/
structure Recalls (trace : Trace) (capacity : Nat) (facts : List TraceFact) : Prop where
  size_eq : trace.slots.size = max capacity 1
  recorded_eq : trace.recorded = facts.length
  around_eq : trace.around =
    (List.replicate (max capacity 1) none ++ (history facts).map some).rtake (max capacity 1)

theorem recalls_new (capacity : Nat) : (new capacity).Recalls capacity [] where
  size_eq := Array.size_replicate
  recorded_eq := rfl
  around_eq := by
    simp [around, new, history, List.rtake]

theorem Recalls.record {trace : Trace} {capacity : Nat} {facts : List TraceFact}
    (h : trace.Recalls capacity facts) (fact : TraceFact) :
    (trace.record fact).Recalls capacity (facts ++ [fact]) where
  size_eq := by
    rw [Trace.record, Array.size_setIfInBounds, h.size_eq]
  recorded_eq := by
    rw [Trace.record, h.recorded_eq, List.length_append, List.length_singleton]
  around_eq := by
    have hsize : 0 < trace.slots.size := by
      rw [h.size_eq]
      omega
    have hlong : max capacity 1 ≤
        (List.replicate (max capacity 1) none ++ (history facts).map some).length := by
      rw [List.length_append, List.length_replicate]
      omega
    rw [around_record hsize, h.around_eq, h.recorded_eq, history_concat, List.map_append,
      ← List.append_assoc, List.map_singleton]
    exact tail_rtake_append (by omega) hlong _

theorem Recalls.noteAll {trace : Trace} {capacity : Nat} {facts : List TraceFact}
    (h : trace.Recalls capacity facts) (notices : List Notice) :
    (trace.noteAll notices).Recalls capacity (facts ++ notices.filterMap Notice.fact?) := by
  induction notices generalizing trace facts with
  | nil =>
      rw [List.filterMap_nil, List.append_nil]
      exact h
  | cons notice rest ih =>
      rw [Trace.noteAll, List.foldl_cons, ← Trace.noteAll, note_eq]
      cases hfact : notice.fact? with
      | none =>
          rw [List.filterMap_cons_none hfact]
          exact ih h
      | some fact =>
          rw [List.filterMap_cons_some hfact, List.append_cons]
          exact ih (h.record fact)

section
variable {trace : Trace} {capacity : Nat} {facts : List TraceFact}
  (h : trace.Recalls capacity facts)
include h

/-- Once the unused slots are left out, the last slots are the last entries. -/
theorem Recalls.entries_eq : trace.entries = (history facts).rtake (max capacity 1) := by
  have hlength : (List.replicate (max capacity 1) none ++ (history facts).map some).length -
      max capacity 1 = (history facts).length := by
    rw [List.length_append, List.length_replicate, List.length_map, Nat.add_sub_cancel_left]
  rw [Trace.entries_eq, h.around_eq, List.rtake, hlength, List.drop_append,
    List.length_replicate, List.filterMap_append, List.drop_replicate, ← List.map_drop,
    List.rtake]
  simp

theorem Recalls.facts_eq : trace.entries.map TraceEntry.fact =
    facts.rtake (min facts.length (max capacity 1)) := by
  have hfirst : facts.length - min facts.length (max capacity 1) =
      facts.length - max capacity 1 := by
    omega
  rw [h.entries_eq, List.rtake, List.rtake, List.map_drop, map_fact_history, length_history,
    hfirst]

theorem Recalls.sequences_eq : trace.entries.map TraceEntry.sequence =
    List.range' (facts.length - min facts.length (max capacity 1))
      (min facts.length (max capacity 1)) := by
  have hfirst : facts.length - min facts.length (max capacity 1) =
      facts.length - max capacity 1 := by
    omega
  rw [h.entries_eq, List.rtake, List.map_drop, map_sequence_history, length_history,
    List.range_eq_range', List.drop_range', Nat.zero_add, Nat.mul_one, Nat.sub_sub_eq_min,
    hfirst]

/-- Reading the ring once around is the same as sorting what its slots hold. -/
theorem Recalls.entries_sorted : trace.entries =
    (trace.slots.toList.filterMap id).mergeSort fun entry later =>
      entry.sequence ≤ later.sequence := by
  have hperm : trace.entries.Perm (trace.slots.toList.filterMap id) :=
    trace.around_perm.filterMap id
  have hascending : trace.entries.Pairwise fun entry later =>
      entry.sequence < later.sequence := by
    rw [← List.pairwise_map, h.sequences_eq]
    exact List.pairwise_lt_range'
  -- no number stands twice, so the order by numbers leaves nothing open
  have hapart : ∀ entry ∈ trace.entries, ∀ other ∈ trace.entries,
      entry.sequence = other.sequence → entry = other := by
    apply List.inj_on_of_nodup_map
    rw [h.sequences_eq]
    exact List.nodup_range'
  refine List.Perm.eq_of_pairwise (fun entry other hentry hother hle hge => ?_)
    (hascending.imp Nat.le_of_lt) ?_ (hperm.trans (List.mergeSort_perm _ _).symm)
  · have hmem : other ∈ trace.entries := by
      rwa [List.mem_mergeSort, ← hperm.mem_iff] at hother
    exact hapart entry hentry other hmem (Nat.le_antisymm hle hge)
  · have hsorted : ((trace.slots.toList.filterMap id).mergeSort fun entry later =>
        entry.sequence ≤ later.sequence).Pairwise fun entry later =>
          decide (entry.sequence ≤ later.sequence) :=
      List.pairwise_mergeSort (by grind) (by grind) _
    simpa only [decide_eq_true_eq] using hsorted

end

structure Shows (trace : Trace) (capacity : Nat) (facts : List TraceFact) : Prop where
  recorded_eq : trace.recorded = facts.length
  facts_eq : trace.entries.map TraceEntry.fact =
    facts.rtake (min facts.length (max capacity 1))
  sequences_eq : trace.entries.map TraceEntry.sequence =
    List.range' (facts.length - min facts.length (max capacity 1))
      (min facts.length (max capacity 1))
  entries_sorted : trace.entries =
    (trace.slots.toList.filterMap id).mergeSort fun entry later =>
      entry.sequence ≤ later.sequence

theorem shows_noteAll (capacity : Nat) (notices : List Notice) :
    ((new capacity).noteAll notices).Shows capacity (notices.filterMap Notice.fact?) := by
  have hrecalls := (recalls_new capacity).noteAll notices
  rw [List.nil_append] at hrecalls
  exact ⟨hrecalls.recorded_eq, hrecalls.facts_eq, hrecalls.sequences_eq,
    hrecalls.entries_sorted⟩

end Trace

theorem observeAll_trace (ring : Trace) (events : List Event) :
    (Observer.trace ring).observeAll events = .trace (ring.noteAll (events.map .event)) := by
  induction events generalizing ring with
  | nil => rfl
  | cons event rest ih => exact ih (ring.observe event)

/--
A trace of any capacity, also of none, shows the last facts that reached it, in the
order in which they did and with consecutive numbers that end at the last one.  As the
only observer of a reassembly it so shows the last accepted and missing packets of
every run.
-/
theorem trace_is_end_of_history (capacity : Nat) :
    (∀ notices, ((Trace.new capacity).noteAll notices).Shows capacity
      (notices.filterMap Notice.fact?)) ∧
    ∀ (settings : Settings) (calls : List Reassembly.Call),
      let observer := Observer.trace (.new capacity)
      let start := Reassembly.initial settings observer.tracesMissing
      let events := Reassembly.Signal.events ((start.run calls).2.flatMap Prod.snd)
      ∃ ring, observer.observeAll events = .trace ring ∧
        ring.Shows capacity (events.filterMap fun event => (Notice.event event).fact?) := by
  refine ⟨Trace.shows_noteAll capacity, ?_⟩
  intro settings calls observer start events
  refine ⟨_, observeAll_trace (.new capacity) events, ?_⟩
  have hshows := Trace.shows_noteAll capacity (events.map .event)
  rwa [List.filterMap_map] at hshows

end Framecast.Observation
