import Framecast.Proofs.Observation.Tracing
import Framecast.Proofs.Reassembly.Muting
import Mathlib.Data.List.Basic

/-!
# Observers side by side

A reassembly reports missing packets if some observer asks for them, and every group on
the way passes them on only where somebody asks.  In the end each observer gets what it
would get alone: whoever asks for missing packets gets all events, whoever does not gets
all others, whatever stands beside it in the tree.
-/

namespace Framecast.Observation

open Framecast.Assembly (Event Settings)

namespace Observer

/-! ## Trees of observers -/

/-- Induction over a tree: what holds of every member holds of the group. -/
@[elab_as_elim, induction_eliminator]
theorem tree_induction {motive : Observer → Prop}
    (recorder : ∀ missing newestFirst, motive (.recorder missing newestFirst))
    (trace : ∀ ring, motive (.trace ring)) (logger : motive .logger)
    (group : ∀ members, (∀ member ∈ members, motive member) → motive (.group members)) :
    ∀ observer, motive observer
  | .recorder missing newestFirst => recorder missing newestFirst
  | .trace ring => trace ring
  | .logger => logger
  | .group members =>
      group members fun member _ => tree_induction recorder trace logger group member

/-- The observers of a tree that are no groups, in order. -/
def leaves : Observer → List Observer
  | .recorder missing newestFirst => [.recorder missing newestFirst]
  | .trace ring => [.trace ring]
  | .logger => [.logger]
  | .group members => leavesOfEach members
where
  /-- The leaves of several trees, one after the other. -/
  leavesOfEach : List Observer → List Observer
    | [] => []
    | member :: rest => member.leaves ++ leavesOfEach rest

def mapLeaves (change : Observer → Observer) : Observer → Observer
  | .recorder missing newestFirst => change (.recorder missing newestFirst)
  | .trace ring => change (.trace ring)
  | .logger => change .logger
  | .group members => .group (mapLeavesOfEach members)
where
  /-- Several trees with every leaf replaced. -/
  mapLeavesOfEach : List Observer → List Observer
    | [] => []
    | member :: rest => mapLeaves change member :: mapLeavesOfEach rest

/-- Whether the event gets through to the observer when it stands in a group. -/
def heeds (observer : Observer) (event : Event) : Bool :=
  !event.isMissing || observer.tracesMissing

def overhear (event : Event) (member : Observer) : Observer :=
  if member.heeds event then member.observe event else member

theorem isMissing_of_not_heeds {observer : Observer} {event : Event}
    (h : ¬ observer.heeds event = true) : event.isMissing = true := by
  cases hmissing : event.isMissing with
  | false => exact absurd (by simp [heeds, hmissing]) h
  | true => rfl

theorem leaves_group (members : List Observer) :
    (group members).leaves = members.flatMap leaves := by
  show leaves.leavesOfEach members = _
  induction members with
  | nil => rfl
  | cons member rest ih => rw [leaves.leavesOfEach, ih, List.flatMap_cons]

theorem mapLeaves_group (change : Observer → Observer) (members : List Observer) :
    (group members).mapLeaves change = .group (members.map (mapLeaves change)) := by
  show group (mapLeaves.mapLeavesOfEach change members) = _
  congr 1
  induction members with
  | nil => rfl
  | cons member rest ih => rw [mapLeaves.mapLeavesOfEach, ih, List.map_cons]

theorem tracesMissing_group (members : List Observer) :
    (group members).tracesMissing = members.any tracesMissing := by
  show tracesMissing.anyTracesMissing members = _
  induction members with
  | nil => rfl
  | cons member rest ih => rw [tracesMissing.anyTracesMissing, ih, List.any_cons]

theorem observe_group (event : Event) (members : List Observer) :
    (group members).observe event = .group (members.map (overhear event)) := by
  show group (observe.observeEach event members) = _
  congr 1
  induction members with
  | nil => rfl
  | cons member rest ih =>
      rw [observe.observeEach, ih, List.map_cons, overhear, heeds]
      cases event.isMissing <;> cases member.tracesMissing <;> rfl

theorem logOf_group (event : Event) (members : List Observer) :
    (group members).logOf event = members.flatMap fun member =>
      if member.heeds event then member.logOf event else [] := by
  show logOf.logOfEach event members = _
  induction members with
  | nil => rfl
  | cons member rest ih =>
      rw [logOf.logOfEach, ih, List.flatMap_cons, heeds]
      cases event.isMissing <;> cases member.tracesMissing <;> rfl

/-! ## What reaches a member -/

def heard (observer : Observer) (events : List Event) : List Event :=
  events.filter observer.heeds

theorem heard_eq (observer : Observer) (events : List Event) :
    observer.heard events =
      if observer.tracesMissing then events
      else events.filter fun event => !event.isMissing := by
  unfold heard heeds
  cases observer.tracesMissing <;> simp

theorem tracesMissing_overhear_of {event : Event} {member : Observer}
    (h : (member.observe event).tracesMissing = member.tracesMissing) :
    (overhear event member).tracesMissing = member.tracesMissing := by
  unfold overhear
  split
  · exact h
  · rfl

/-- Telling an observer an event does not change what it asks for. -/
theorem tracesMissing_observe (event : Event) (observer : Observer) :
    (observer.observe event).tracesMissing = observer.tracesMissing := by
  induction observer with
  | recorder missing newestFirst => rfl
  | trace ring => rfl
  | logger => rfl
  | group members ih =>
      rw [observe_group, tracesMissing_group, tracesMissing_group, List.any_map, Bool.eq_iff_iff,
        List.any_eq_true, List.any_eq_true]
      have hsame : ∀ member ∈ members,
          (overhear event member).tracesMissing = member.tracesMissing :=
        fun member hmem => tracesMissing_overhear_of (ih member hmem)
      constructor
      · rintro ⟨member, hmem, hasks⟩
        exact ⟨member, hmem, hsame member hmem ▸ hasks⟩
      · rintro ⟨member, hmem, hasks⟩
        exact ⟨member, hmem, (hsame member hmem).trans hasks⟩

theorem tracesMissing_observeAll (observer : Observer) (events : List Event) :
    (observer.observeAll events).tracesMissing = observer.tracesMissing := by
  induction events generalizing observer with
  | nil => rfl
  | cons event rest ih => exact (ih (observer.observe event)).trans (tracesMissing_observe _ _)

/-- In a group each member observes what gets through to it. -/
theorem observeAll_group (members : List Observer) (events : List Event) :
    (group members).observeAll events =
      .group (members.map fun member => member.observeAll (member.heard events)) := by
  induction events generalizing members with
  | nil => simp [observeAll, heard]
  | cons event rest ih =>
      have hnext : (group members).observeAll (event :: rest) =
          (group (members.map (overhear event))).observeAll rest := by
        rw [observeAll, List.foldl_cons, observe_group]
        rfl
      rw [hnext, ih, List.map_map]
      congr 1
      apply List.map_congr_left
      intro member _
      have hlater : (overhear event member).heard rest = member.heard rest := by
        unfold heard heeds
        rw [tracesMissing_overhear_of (tracesMissing_observe event member)]
      show (overhear event member).observeAll ((overhear event member).heard rest) = _
      rw [hlater, overhear]
      by_cases hheeds : member.heeds event = true
      · rw [if_pos hheeds, heard, heard, List.filter_cons_of_pos hheeds]
        rfl
      · rw [if_neg hheeds, heard, heard, List.filter_cons_of_neg hheeds]

theorem heeds_group {members : List Observer} {member : Observer} (hmem : member ∈ members)
    {event : Event} (h : member.heeds event = true) : (group members).heeds event = true := by
  unfold heeds at h ⊢
  rw [Bool.or_eq_true] at h ⊢
  rcases h with hother | hasks
  · exact .inl hother
  · rw [tracesMissing_group]
    exact .inr (List.any_eq_true.mpr ⟨member, hmem, hasks⟩)

/-- What gets through to a member got through to its group before. -/
theorem heard_heard_group {members : List Observer} {member : Observer}
    (hmem : member ∈ members) (events : List Event) :
    member.heard ((group members).heard events) = member.heard events := by
  rw [heard, heard, List.filter_filter]
  apply List.filter_congr
  intro event _
  cases hheeds : member.heeds event with
  | false => rfl
  | true => rw [heeds_group hmem hheeds, Bool.and_true]

/-- However deep a leaf stands in a tree, it gets what gets through to itself. -/
theorem observeAll_heard (observer : Observer) (events : List Event) :
    observer.observeAll (observer.heard events) =
      observer.mapLeaves fun leaf => leaf.observeAll (leaf.heard events) := by
  induction observer with
  | recorder missing newestFirst => rfl
  | trace ring => rfl
  | logger => rfl
  | group members ih =>
      rw [observeAll_group, mapLeaves_group]
      congr 1
      apply List.map_congr_left
      intro member hmem
      rw [heard_heard_group hmem, ih member hmem]

/-! ## The log -/

/-- The log says nothing about missing packets. -/
theorem logOf_of_isMissing {event : Event} (h : event.isMissing = true) (observer : Observer) :
    observer.logOf event = [] := by
  induction observer with
  | recorder missing newestFirst => rfl
  | trace ring => rfl
  | logger =>
      cases event with
      | missing frameId packetId packetCount => rfl
      | _ => exact absurd h (by simp [Event.isMissing])
  | group members ih =>
      rw [logOf_group, List.flatMap_eq_nil_iff]
      intro member hmem
      rw [ih member hmem, ite_self]

/-- A tree writes what its leaves write, one after the other. -/
theorem logOf_eq (event : Event) (observer : Observer) :
    observer.logOf event = observer.leaves.flatMap (logOf event) := by
  induction observer with
  | recorder missing newestFirst => rfl
  | trace ring => rfl
  | logger => simp [leaves]
  | group members ih =>
      rw [logOf_group, leaves_group, List.flatMap_assoc]
      apply List.flatMap_congr
      intro member hmem
      rw [← ih member hmem]
      split
      · rfl
      · rename_i hignored
        rw [logOf_of_isMissing (isMissing_of_not_heeds hignored)]

/-- Missing packets leave no mark in the log, whether or not they are reported. -/
theorem logOfAll_heard (observer other : Observer) (events : List Event) :
    observer.logOfAll (other.heard events) = observer.logOfAll events := by
  induction events with
  | nil => rfl
  | cons event rest ih =>
      rw [heard] at ih ⊢
      by_cases hheeds : other.heeds event = true
      · rw [List.filter_cons_of_pos hheeds, logOfAll, logOfAll, List.flatMap_cons,
          List.flatMap_cons, ← logOfAll, ih, logOfAll]
      · rw [List.filter_cons_of_neg hheeds, ih, logOfAll, logOfAll, List.flatMap_cons,
          logOf_of_isMissing (isMissing_of_not_heeds hheeds), List.nil_append]

/-! ## Watching a run -/

/-- The events that a reassembly tells the observer it was made with. -/
def told (settings : Settings) (calls : List Reassembly.Call) (observer : Observer) :
    List Event :=
  (Reassembly.initial settings observer.tracesMissing).eventsDuring calls

def watching (settings : Settings) (calls : List Reassembly.Call) (observer : Observer) :
    Observer :=
  observer.observeAll (observer.told settings calls)

def logDuring (settings : Settings) (calls : List Reassembly.Call) (observer : Observer) :
    List LogRecord :=
  observer.logOfAll (observer.told settings calls)

/-- Of all that happens in a run, an observer is told what would get through to it. -/
theorem told_eq_heard (settings : Settings) (calls : List Reassembly.Call)
    (observer : Observer) :
    observer.told settings calls =
      observer.heard ((Reassembly.initial settings true).eventsDuring calls) := by
  rw [told, heard_eq]
  cases hasks : observer.tracesMissing with
  | true => rfl
  | false => exact Reassembly.eventsDuring_muted (.initial settings true) calls

theorem watching_eq_mapLeaves (settings : Settings) (calls : List Reassembly.Call)
    (observer : Observer) :
    observer.watching settings calls = observer.mapLeaves (watching settings calls) := by
  have halone : watching settings calls = fun leaf =>
      leaf.observeAll (leaf.heard ((Reassembly.initial settings true).eventsDuring calls)) := by
    funext leaf
    rw [watching, told_eq_heard]
  rw [watching, told_eq_heard, observeAll_heard, halone]

theorem observeAll_recorder (missing : Bool) (newestFirst events : List Event) :
    (recorder missing newestFirst).observeAll events =
      .recorder missing (events.reverse ++ newestFirst) := by
  induction events generalizing newestFirst with
  | nil => rfl
  | cons event rest ih =>
      rw [List.reverse_cons, List.append_assoc]
      exact ih (event :: newestFirst)

theorem observeAll_logger (events : List Event) : logger.observeAll events = logger := by
  induction events with
  | nil => rfl
  | cons event rest ih => exact ih

theorem leaves_mapLeaves (change : Observer → Observer) (observer : Observer) :
    (observer.mapLeaves change).leaves =
      observer.leaves.flatMap fun leaf => (change leaf).leaves := by
  induction observer with
  | recorder missing newestFirst => exact (List.flatMap_singleton _ _).symm
  | trace ring => exact (List.flatMap_singleton _ _).symm
  | logger => exact (List.flatMap_singleton _ _).symm
  | group members ih =>
      rw [mapLeaves_group, leaves_group, leaves_group, List.flatMap_map, List.flatMap_assoc]
      exact List.flatMap_congr ih

/-- No leaf becomes a group. -/
theorem leaves_observeAll_of_mem {observer leaf : Observer} (hmem : leaf ∈ observer.leaves)
    (events : List Event) : (leaf.observeAll events).leaves = [leaf.observeAll events] := by
  induction observer with
  | recorder missing newestFirst =>
      rw [List.mem_singleton.mp hmem, observeAll_recorder]
      rfl
  | trace ring =>
      rw [List.mem_singleton.mp hmem, observeAll_trace]
      rfl
  | logger =>
      rw [List.mem_singleton.mp hmem, observeAll_logger]
      rfl
  | group members ih =>
      rw [leaves_group] at hmem
      obtain ⟨member, hmember, hleaf⟩ := List.mem_flatMap.mp hmem
      exact ih member hmember hleaf

theorem leaves_watching (settings : Settings) (calls : List Reassembly.Call)
    (observer : Observer) :
    (observer.watching settings calls).leaves =
      observer.leaves.map (watching settings calls) := by
  rw [watching_eq_mapLeaves, leaves_mapLeaves, ← List.flatMap_pure_eq_map]
  exact List.flatMap_congr fun leaf hmem => leaves_observeAll_of_mem hmem _

theorem logDuring_eq (settings : Settings) (calls : List Reassembly.Call)
    (observer : Observer) :
    observer.logDuring settings calls =
      ((Reassembly.initial settings true).eventsDuring calls).flatMap fun event =>
        observer.leaves.flatMap (logOf event) := by
  rw [logDuring, told_eq_heard, logOfAll_heard, logOfAll]
  exact List.flatMap_congr fun event _ => logOf_eq event observer

end Observer

/--
In a tree of observers that watches a run, each leaf ends as it would if the reassembly had
been made with it alone.  A recorder has added all events, or all but those about missing
packets if it does not ask for these; a trace was shown all events; what the tree writes to
the log is, event by event, what its loggers write alone.
-/
theorem leaves_watch_as_if_alone (settings : Settings) (calls : List Reassembly.Call) :
    let happened := (Reassembly.initial settings true).eventsDuring calls
    (∀ observer : Observer,
      observer.watching settings calls = observer.mapLeaves (.watching settings calls) ∧
      (observer.watching settings calls).leaves =
        observer.leaves.map (.watching settings calls) ∧
      (observer.watching settings calls).tracesMissing = observer.tracesMissing ∧
      observer.logDuring settings calls = happened.flatMap fun event =>
        observer.leaves.flatMap fun leaf => leaf.logOf event) ∧
    (∀ newestFirst, (Observer.recorder true newestFirst).watching settings calls =
      .recorder true (happened.reverse ++ newestFirst)) ∧
    (∀ newestFirst, (Observer.recorder false newestFirst).watching settings calls =
      .recorder false
        ((happened.filter fun event => !event.isMissing).reverse ++ newestFirst)) ∧
    (∀ ring, (Observer.trace ring).watching settings calls =
      .trace (ring.noteAll (happened.map .event))) ∧
    Observer.logger.watching settings calls = .logger ∧
      Observer.logger.logDuring settings calls = happened.flatMap logEvent := by
  intro happened
  have htold : ∀ observer : Observer, observer.watching settings calls =
      observer.observeAll (observer.heard happened) := by
    intro observer
    rw [Observer.watching, Observer.told_eq_heard]
  refine ⟨fun observer => ⟨observer.watching_eq_mapLeaves settings calls,
    observer.leaves_watching settings calls, observer.tracesMissing_observeAll _,
    observer.logDuring_eq settings calls⟩, ?_, ?_, ?_, ?_, ?_⟩
  · intro newestFirst
    rw [htold, Observer.observeAll_recorder, Observer.heard_eq]
    rfl
  · intro newestFirst
    rw [htold, Observer.observeAll_recorder, Observer.heard_eq]
    rfl
  · intro ring
    rw [htold, observeAll_trace, Observer.heard_eq]
    rfl
  · exact Observer.observeAll_logger _
  · rw [Observer.logDuring_eq]
    simp only [Observer.leaves, List.flatMap_singleton]
    rfl

end Framecast.Observation
