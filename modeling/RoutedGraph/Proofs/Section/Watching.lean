import RoutedGraph.Proofs.Pipe.Received

/-!
# What a listener hears

A listener writes down what is announced under its name.  One that listens to
the announcements of a stage from the start, once and to nothing else, writes
down exactly these, before the answer of the pull in which they are made.
-/

namespace RoutedGraph

variable {ω α : Type}

/-- What a listener has heard, as the announcement that it listens to. -/
def Note.heard? (name : String) (events : EventsId) : Note α → Option (Announcement α)
  | .heard watcher border marker index =>
      if watcher = name then some ⟨events, border, marker, index⟩ else none
  | .keyed _ _ _ => none

namespace Announcement

/-- Those of some announcements that a listener listens to. -/
def own (events : EventsId) (calls : List (Announcement α)) : List (Announcement α) :=
  calls.filter fun call => events = call.events

@[simp]
theorem own_nil (events : EventsId) : own events ([] : List (Announcement α)) = [] := rfl

@[simp]
theorem own_append (events : EventsId) (first second : List (Announcement α)) :
    own events (first ++ second) = own events first ++ own events second :=
  List.filter_append _ _

end Announcement

open Announcement (own)

namespace Hub

/-- What a listener has written down, oldest first. -/
def heard (hub : Hub α) (name : String) (events : EventsId) : List (Announcement α) :=
  hub.notes.reverse.filterMap (Note.heard? name events)

/-- The notes have been collected. -/
def collected (hub : Hub α) : Hub α := { hub with notes := [] }

/-- A listener listens to certain announcements, once and to no others. -/
def Attends (hub : Hub α) (name : String) (events : EventsId) : Prop :=
  ∀ other, (hub.listeners other).count (.watcher name) = if events = other then 1 else 0

variable {name : String} {events : EventsId}

theorem Attends.keeps {hub after : Hub α} (attends : hub.Attends name events)
    (keeps : Keeps hub after) : after.Attends name events := by
  intro other
  rw [listeners, keeps.subscribers]
  exact attends other

variable (hub : Hub α)

theorem heard_write (notes : List (Note α)) :
    (hub.write notes).heard name events =
      hub.heard name events ++ notes.filterMap (Note.heard? name events) := by
  simp [heard, write]

/-- The keys that are written down when a section ends are no announcements. -/
theorem heard_finishWindow (id : WindowId) (marker : Option α) (index : Nat) :
    (hub.finishWindow id marker index).heard name events = hub.heard name events := by
  have keys (window : Window α) :
      (keyNotes window marker index).filterMap (Note.heard? name events) = [] := by
    rw [keyNotes]
    split
    · rw [List.filterMap_map]
      exact List.filterMap_eq_nil_iff.mpr fun _ _ => rfl
    · rfl
  unfold finishWindow
  dsimp only
  split
  · rfl
  · exact (hub.heard_write _).trans (by rw [keys, List.append_nil])

theorem heard_tell (border : Border) (marker : α) (index : Nat) (listener : Subscriber) :
    (hub.tell border marker index listener).heard name events =
      hub.heard name events ++
        List.replicate ([listener].count (.watcher name)) ⟨events, border, marker, index⟩ := by
  cases listener with
  | watcher other =>
      rw [tell, heard_write]
      by_cases same : other = name <;> simp [Note.heard?, same]
  | window id =>
      rw [List.count_eq_zero.mpr (by simp), List.replicate_zero, List.append_nil]
      cases border with
      | start => rfl
      | finish => exact hub.heard_finishWindow id _ _

/-- A listener hears an announcement as often as it listens. -/
theorem heard_announce_count (called : EventsId) (border : Border) (marker : α) (index : Nat) :
    (hub.announce called border marker index).heard name events =
      hub.heard name events ++ List.replicate ((hub.listeners called).count (.watcher name))
        ⟨events, border, marker, index⟩ := by
  unfold announce
  generalize hub.listeners called = listeners
  induction listeners generalizing hub with
  | nil => simp
  | cons listener rest ih =>
      rw [List.foldl_cons, ih, heard_tell, List.append_assoc, List.replicate_append_replicate,
        ← List.count_append]
      rfl

variable {hub}

theorem heard_announce (attends : hub.Attends name events) (called : EventsId) (border : Border)
    (marker : α) (index : Nat) :
    (hub.announce called border marker index).heard name events =
      hub.heard name events ++ own events [⟨called, border, marker, index⟩] := by
  rw [heard_announce_count, attends called, own]
  by_cases same : events = called
  · subst same
    simp
  · simp [same]

end Hub

namespace Pipe

variable {world : ω} {name : String} {events : EventsId} {hub : Hub α}

theorem heard_stepSections (expand : ω → α → Except RouteError (List α)) (called : EventsId)
    (index : Nat) (moved : Motion α × Pipe ω α × Hub α) (attends : moved.2.2.Attends name events) :
    (stepSections world expand called index moved).2.2.heard name events =
      moved.2.2.heard name events ++ own events (opening called index moved.1) := by
  obtain ⟨motion, next, later⟩ := moved
  cases motion with
  | item marker =>
      simp only [stepSections]
      split <;> exact Hub.heard_announce attends _ _ _ _
  | skip => simp [stepSections, opening]
  | done => simp [stepSections, opening]
  | failed error => simp [stepSections, opening]

theorem heard_stepSort (window : WindowId) (held : Nat) (moved : Motion α × Pipe ω α × Hub α) :
    (stepSort window held moved).2.2.heard name events = moved.2.2.heard name events := by
  obtain ⟨motion, next, later⟩ := moved
  cases motion with
  | item value => rfl
  | skip => rfl
  | done => exact later.heard_finishWindow window none _
  | failed error => rfl

/-- In a step a listener hears those announcements that it listens to, and nothing else. -/
theorem heard_step (pipe : Pipe ω α) (attends : hub.Attends name events) :
    (pipe.step world hub).2.2.heard name events =
      hub.heard name events ++ own events (pipe.announced world hub) := by
  induction pipe generalizing hub with
  | source readings => cases readings <;> simp [step, announced]
  | script called cues =>
      cases cues with
      | nil => simp [step, announced]
      | cons cue rest =>
          cases cue with
          | announce border marker index => exact Hub.heard_announce attends _ _ _ _
          | fail error => simp [step, announced]
          | stop => simp [step, announced]
          | item value => simp [step, announced]
  | map change seen supply ih =>
      rw [hub_step_map]
      exact ih attends
  | select keeps seen supply ih =>
      rw [hub_step_select]
      exact ih attends
  | sections expand called current children index supply ih =>
      cases children with
      | cons child children => simp [step, announced]
      | nil =>
          cases current with
          | none =>
              simp only [step, announced, Announcement.own_append]
              rw [heard_stepSections expand called index _ (attends.keeps (keeps_step _ _ _)),
                ih attends, List.append_assoc]
          | some marker =>
              have ended := attends.keeps (hub.keeps_announce called .finish marker index)
              simp only [step, announced]
              rw [heard_stepSections expand called _ _ (ended.keeps (keeps_step _ _ _)),
                ih ended, Hub.heard_announce attends, List.append_assoc, List.append_assoc,
                ← Announcement.own_append, ← Announcement.own_append]
              rfl
  | sort window held pulling exhausted supply ih =>
      simp only [step, announced]
      rcases ready?_cases window held pulling (hub.window window) with
        none | ⟨item, rest, items, rfl, rfl, -, some⟩
      · rw [none hub rfl]
        cases exhausted with
        | true => simp
        | false => simpa [heard_stepSort] using ih attends
      · rw [some hub rfl]
        simp [Hub.heard, Hub.setWindow]

/-- A pull answers with the first item or failure of the transcript, and what a listener hears
meanwhile is what it listens to. -/
theorem heard_pull (world : ω) (pipe : Pipe ω α) (attends : hub.Attends name events) :
    (pipe.pull world hub).2.2.Attends name events ∧
    ∃ calls : List (Announcement α),
      (pipe.pull world hub).2.2.heard name events =
        hub.heard name events ++ own events calls ∧
      pipe.transcript world hub =
        calls.map .announced ++
          match pipe.pull world hub with
          | (.item value, next, later) => .item value :: next.transcript world later
          | (.done, _, _) => []
          | (.failed error, next, later) => .failed error :: next.transcript world later := by
  have heard (hub : Hub α) (pipe : Pipe ω α) (attends : hub.Attends name events) :
      (pipe.step world hub).2.2.heard name events =
        hub.heard name events ++ own events (pipe.announced world hub) := heard_step pipe attends
  fun_induction pull world pipe hub with
  | case1 pipe hub value next later moved =>
      have still := attends.keeps (keeps_step world pipe hub)
      have taken := heard hub pipe attends
      rw [moved] at still taken
      exact ⟨still, pipe.announced world hub, taken, by rw [transcript_eq]; simp only [moved]⟩
  | case2 pipe hub next later moved ih =>
      have still := attends.keeps (keeps_step world pipe hub)
      have taken := heard hub pipe attends
      rw [moved] at still taken
      obtain ⟨kept, calls, onward, listed⟩ := ih still
      refine ⟨kept, pipe.announced world hub ++ calls, ?_, ?_⟩
      · rw [onward, taken, List.append_assoc, Announcement.own_append]
      · rw [transcript_eq, List.map_append, List.append_assoc, ← listed]
        simp only [moved]
  | case3 pipe hub next later moved =>
      have still := attends.keeps (keeps_step world pipe hub)
      have taken := heard hub pipe attends
      rw [moved] at still taken
      exact ⟨still, pipe.announced world hub, taken, by rw [transcript_eq]; simp only [moved]⟩
  | case4 pipe hub error next later moved =>
      have still := attends.keeps (keeps_step world pipe hub)
      have taken := heard hub pipe attends
      rw [moved] at still taken
      exact ⟨still, pipe.announced world hub, taken, by rw [transcript_eq]; simp only [moved]⟩

/-- Pull a pipe up to its first end, and keep in order what a listener writes down and what the pulls
answer. -/
def watched (world : ω) (name : String) (events : EventsId) (pipe : Pipe ω α) (hub : Hub α) :
    List (Moment α) :=
  match _pulled : pipe.pull world hub.collected with
  | (.item value, next, later) =>
      (later.heard name events).map .announced ++ .item value :: next.watched world name events later
  | (.done, _, later) => (later.heard name events).map .announced
  | (.failed error, next, later) =>
      (later.heard name events).map .announced ++
        .failed error :: next.watched world name events later
termination_by pipe.rank
decreasing_by all_goals exact pull_lowers _pulled (by simp)

/-- Whether a listener of certain announcements, or the consumer, notices a moment. -/
def notices (events : EventsId) : Moment α → Bool
  | .announced call => events = call.events
  | _ => true

@[simp]
theorem notices_announced (call : Announcement α) :
    notices events (.announced call) = decide (events = call.events) := rfl

@[simp]
theorem notices_item (value : α) : notices events (.item value) = true := rfl

@[simp]
theorem notices_failed (error : RouteError) :
    notices events (.failed error : Moment α) = true := rfl

theorem filter_notices (calls : List (Announcement α)) (rest : List (Moment α)) :
    (calls.map Moment.announced ++ rest).filter (notices events) =
      (own events calls).map Moment.announced ++ rest.filter (notices events) := by
  rw [List.filter_append, List.filter_map]
  rfl

/-- A listener and the consumer notice the whole transcript but what is announced to others. -/
theorem watched_eq_filter (pipe : Pipe ω α) (attends : hub.Attends name events) :
    pipe.watched world name events hub = (pipe.transcript world hub).filter (notices events) := by
  have collected (pipe : Pipe ω α) (hub : Hub α) (attends : hub.Attends name events) :
      ∃ calls : List (Announcement α),
        (pipe.pull world hub.collected).2.2.Attends name events ∧
        (pipe.pull world hub.collected).2.2.heard name events = own events calls ∧
        pipe.transcript world hub =
          calls.map .announced ++
            match pipe.pull world hub.collected with
            | (.item value, next, later) => .item value :: next.transcript world later
            | (.done, _, _) => []
            | (.failed error, next, later) => .failed error :: next.transcript world later := by
    -- The windows of the pipe do not read the notes.
    have same : pipe.transcript world hub = pipe.transcript world hub.collected :=
      transcript_congr ⟨fun _ _ => rfl, fun _ _ => rfl⟩
    have attentive : hub.collected.Attends name events := attends.keeps ⟨rfl, rfl⟩
    obtain ⟨still, calls, taken, listed⟩ := heard_pull world pipe attentive
    exact ⟨calls, still, taken, same.trans listed⟩
  fun_induction watched world name events pipe hub with
  | case1 pipe hub value next later pulled ih =>
      obtain ⟨calls, still, taken, listed⟩ := collected pipe hub attends
      rw [pulled] at still taken listed
      rw [listed, filter_notices, taken, ih still]
      rfl
  | case2 pipe hub next later pulled =>
      obtain ⟨calls, still, taken, listed⟩ := collected pipe hub attends
      rw [pulled] at taken listed
      rw [listed, filter_notices, taken]
      exact (List.append_nil _).symm
  | case3 pipe hub error next later pulled ih =>
      obtain ⟨calls, still, taken, listed⟩ := collected pipe hub attends
      rw [pulled] at still taken listed
      rw [listed, filter_notices, taken, ih still]
      rfl

end Pipe

end RoutedGraph
