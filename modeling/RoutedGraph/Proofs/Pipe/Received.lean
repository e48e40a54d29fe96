import RoutedGraph.Proofs.Pipe.Transcript

/-!
# What a consumer receives

A consumer that pulls again and again and goes on after failures receives the
items and failures of the transcript.  What is announced meanwhile comes from
the stages of the pipe that announce.
-/

namespace RoutedGraph

variable {ω α : Type}

namespace Moment

/-- What a consumer is answered. -/
def answer? : Moment α → Option (Except RouteError α)
  | .announced _ => none
  | .item value => some (.ok value)
  | .failed error => some (.error error)

/-- The items that are brought and the failures. -/
def answers (moments : List (Moment α)) : List (Except RouteError α) := moments.filterMap answer?

@[simp]
theorem answers_nil : answers ([] : List (Moment α)) = [] := rfl

@[simp]
theorem answers_announced (call : Announcement α) (rest : List (Moment α)) :
    answers (.announced call :: rest) = answers rest := rfl

@[simp]
theorem answers_item (value : α) (rest : List (Moment α)) :
    answers (.item value :: rest) = .ok value :: answers rest := rfl

@[simp]
theorem answers_failed (error : RouteError) (rest : List (Moment α)) :
    answers (.failed error :: rest) = .error error :: answers rest := rfl

@[simp]
theorem answers_append (first second : List (Moment α)) :
    answers (first ++ second) = answers first ++ answers second :=
  List.filterMap_append

@[simp]
theorem answers_map_item (items : List α) :
    answers (items.map .item) = items.map .ok := by
  induction items with
  | nil => rfl
  | cons item items ih => exact congrArg (.ok item :: ·) ih

@[simp]
theorem answers_map_announced (calls : List (Announcement α)) :
    answers (calls.map .announced) = [] := by
  induction calls with
  | nil => rfl
  | cons call calls ih => exact ih

theorem announced_mem_append {call : Announcement α} {calls : List (Announcement α)}
    {rest : List (Moment α)} :
    .announced call ∈ calls.map .announced ++ rest ↔ call ∈ calls ∨ .announced call ∈ rest := by
  simp

end Moment

namespace Pipe

/-- Pull a pipe up to its first end, and keep the items and the failures. -/
def received (world : ω) (pipe : Pipe ω α) (hub : Hub α) : List (Except RouteError α) :=
  match _pulled : pipe.pull world hub with
  | (.item value, next, later) => .ok value :: next.received world later
  | (.done, _, _) => []
  | (.failed error, next, later) => .error error :: next.received world later
termination_by pipe.rank
decreasing_by all_goals exact pull_lowers _pulled (by simp)

theorem received_eq_answers (world : ω) (pipe : Pipe ω α) (hub : Hub α) :
    pipe.received world hub = Moment.answers (pipe.transcript world hub) := by
  fun_induction received world pipe hub with
  | case1 pipe hub value next later pulled ih =>
      obtain ⟨calls, listed⟩ := transcript_pull world pipe hub
      simp [listed, pulled, ih]
  | case2 pipe hub next later pulled =>
      obtain ⟨calls, listed⟩ := transcript_pull world pipe hub
      simp [listed, pulled]
  | case3 pipe hub error next later pulled ih =>
      obtain ⟨calls, listed⟩ := transcript_pull world pipe hub
      simp [listed, pulled, ih]

/-- The announcements that the stages of a pipe make. -/
def voices : Pipe ω α → List EventsId
  | source _ => []
  | script events _ => [events]
  | map _ _ supply => supply.voices
  | select _ _ supply => supply.voices
  | sections _ events _ _ _ supply => events :: supply.voices
  | sort _ _ _ _ supply => supply.voices

theorem Becomes.voices {pipe next : Pipe ω α} (becomes : Becomes pipe next) :
    next.voices = pipe.voices := by
  induction becomes with
  | source left => rfl
  | script events left => rfl
  | map change seen later supplied ih => exact ih
  | select keeps seen later supplied ih => exact ih
  | sections expand events supplied ih => exact congrArg (events :: ·) ih
  | sort window supplied ih => exact ih

theorem events_of_opening {events : EventsId} {index : Nat} {motion : Motion α}
    {call : Announcement α} (member : call ∈ opening events index motion) :
    call.events = events := by
  cases motion with
  | item marker =>
      obtain rfl := List.mem_singleton.mp member
      rfl
  | skip => cases member
  | done => cases member
  | failed error => cases member

/-- What a step announces is announced by a stage of the pipe. -/
theorem announced_voices (world : ω) {pipe : Pipe ω α} {hub : Hub α} {call : Announcement α}
    (member : call ∈ pipe.announced world hub) : call.events ∈ pipe.voices := by
  induction pipe generalizing hub with
  | source readings => cases member
  | script events cues =>
      cases cues with
      | nil => cases member
      | cons cue rest =>
          cases cue with
          | announce border marker index =>
              obtain rfl := List.mem_singleton.mp member
              exact List.mem_singleton_self _
          | fail error => cases member
          | stop => cases member
          | item value => cases member
  | map change seen supply ih => exact ih member
  | select keeps seen supply ih => exact ih member
  | sections expand events current children index supply ih =>
      cases children with
      | cons child children => cases member
      | nil =>
          cases current with
          | none =>
              rcases List.mem_append.mp member with inside | opened
              · exact List.mem_cons_of_mem _ (ih inside)
              · exact events_of_opening opened ▸ List.mem_cons_self
          | some marker =>
              rcases List.mem_cons.mp member with rfl | later
              · exact List.mem_cons_self
              · rcases List.mem_append.mp later with inside | opened
                · exact List.mem_cons_of_mem _ (ih inside)
                · exact events_of_opening opened ▸ List.mem_cons_self
  | sort window held pulling exhausted supply ih =>
      simp only [announced] at member
      split at member
      · cases member
      · exact ih member

/-- A step keeps the stages that announce. -/
theorem voices_of_step {world : ω} {pipe next : Pipe ω α} {hub later : Hub α} {motion : Motion α}
    (moved : pipe.step world hub = (motion, next, later)) : next.voices = pipe.voices := by
  have becomes := becomes_step world pipe hub
  rw [moved] at becomes
  exact becomes.voices

theorem transcript_voices (world : ω) {pipe : Pipe ω α} {hub : Hub α} {call : Announcement α}
    (member : .announced call ∈ pipe.transcript world hub) : call.events ∈ pipe.voices := by
  fun_induction transcript world pipe hub with
  | case1 pipe hub value next later moved ih =>
      rcases Moment.announced_mem_append.mp member with now | onward
      · exact announced_voices world now
      · exact voices_of_step moved ▸ ih (by simpa using onward)
  | case2 pipe hub next later moved ih =>
      rcases Moment.announced_mem_append.mp member with now | onward
      · exact announced_voices world now
      · exact voices_of_step moved ▸ ih onward
  | case3 pipe hub next later moved =>
      exact announced_voices world (by simpa using member)
  | case4 pipe hub error next later moved ih =>
      rcases Moment.announced_mem_append.mp member with now | onward
      · exact announced_voices world now
      · exact voices_of_step moved ▸ ih (by simpa using onward)

end Pipe

end RoutedGraph
