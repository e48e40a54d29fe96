import RoutedGraph.Proofs.Pipe.Steps

/-!
# Transcripts

The transcript of a pipe lists what happens while it is pulled again and again
up to its first end: what is announced, what the pipe brings, and how it fails.
Everything that pulling answers can be read off the transcript, and the
transcript of a stage is a function of that of its supply.
-/

namespace RoutedGraph

variable {ω α : Type}

/-- One thing that happens while a pipe is pulled. -/
inductive Moment (α : Type) where
  | announced (call : Announcement α)
  | item (item : α)
  | failed (error : RouteError)

namespace Moment

def ofExcept : Except RouteError α → Moment α
  | .ok value => .item value
  | .error error => .failed error

def value? : Moment α → Option α
  | .item value => some value
  | _ => none

/-- The items that are brought. -/
def values (moments : List (Moment α)) : List α := moments.filterMap value?

/-- The items that are brought, or the first failure. -/
def outcome : List (Moment α) → Except RouteError (List α)
  | [] => .ok []
  | .announced _ :: rest => outcome rest
  | .item value :: rest => (outcome rest).map (value :: ·)
  | .failed error :: _ => .error error

@[simp]
theorem values_nil : values ([] : List (Moment α)) = [] := rfl

@[simp]
theorem values_announced (call : Announcement α) (rest : List (Moment α)) :
    values (.announced call :: rest) = values rest := rfl

@[simp]
theorem values_item (value : α) (rest : List (Moment α)) :
    values (.item value :: rest) = value :: values rest := rfl

@[simp]
theorem values_failed (error : RouteError) (rest : List (Moment α)) :
    values (.failed error :: rest) = values rest := rfl

@[simp]
theorem values_append (first second : List (Moment α)) :
    values (first ++ second) = values first ++ values second :=
  List.filterMap_append

@[simp]
theorem values_map_item (items : List α) : values (items.map .item) = items := by
  induction items with
  | nil => rfl
  | cons item items ih => exact congrArg (item :: ·) ih

@[simp]
theorem values_map_announced (calls : List (Announcement α)) :
    values (calls.map .announced) = [] := by
  induction calls with
  | nil => rfl
  | cons call calls ih => exact ih

theorem outcome_map_announced (calls : List (Announcement α)) (rest : List (Moment α)) :
    outcome (calls.map .announced ++ rest) = outcome rest := by
  induction calls with
  | nil => rfl
  | cons call calls ih => exact ih

end Moment

namespace Pipe

/-- What happens while a pipe is pulled again and again up to its first end. -/
def transcript (world : ω) (pipe : Pipe ω α) (hub : Hub α) : List (Moment α) :=
  match _moved : pipe.step world hub with
  | (.item value, next, later) =>
      (pipe.announced world hub).map .announced ++ .item value :: next.transcript world later
  | (.skip, next, later) =>
      (pipe.announced world hub).map .announced ++ next.transcript world later
  | (.done, _, _) => (pipe.announced world hub).map .announced
  | (.failed error, next, later) =>
      (pipe.announced world hub).map .announced ++ .failed error :: next.transcript world later
termination_by pipe.rank
decreasing_by all_goals exact step_lowers _moved (by simp)

/-- A transcript starts with what a step announces and brings. -/
theorem transcript_eq (world : ω) (pipe : Pipe ω α) (hub : Hub α) :
    pipe.transcript world hub =
      (pipe.announced world hub).map .announced ++
        match pipe.step world hub with
        | (.item value, next, later) => .item value :: next.transcript world later
        | (.skip, next, later) => next.transcript world later
        | (.done, _, _) => []
        | (.failed error, next, later) => .failed error :: next.transcript world later := by
  rw [transcript]
  split <;> rename_i moved <;> simp only [moved, List.append_nil]

/-- A transcript depends on nothing in the hub but the windows of the pipe. -/
theorem transcript_congr {world : ω} {pipe : Pipe ω α} {first second : Hub α}
    (agree : Hub.Agree pipe.windows first second) :
    pipe.transcript world second = pipe.transcript world first := by
  fun_induction transcript world pipe first generalizing second with
  | case1 pipe first value next later moved ih =>
      obtain ⟨otherLater, same, kept⟩ := step_congr agree moved
      rw [transcript_eq, announced_congr agree, same]
      simp only [ih kept]
  | case2 pipe first next later moved ih =>
      obtain ⟨otherLater, same, kept⟩ := step_congr agree moved
      rw [transcript_eq, announced_congr agree, same]
      simp only [ih kept]
  | case3 pipe first next later moved =>
      obtain ⟨otherLater, same, kept⟩ := step_congr agree moved
      rw [transcript_eq, announced_congr agree, same, List.append_nil]
  | case4 pipe first error next later moved ih =>
      obtain ⟨otherLater, same, kept⟩ := step_congr agree moved
      rw [transcript_eq, announced_congr agree, same]
      simp only [ih kept]

/-- Pull a pipe up to its first end, and keep the items that it brings.  A failure is passed
over. -/
def brought (world : ω) (pipe : Pipe ω α) (hub : Hub α) : List α :=
  match _pulled : pipe.pull world hub with
  | (.item value, next, later) => value :: next.brought world later
  | (.done, _, _) => []
  | (.failed _, next, later) => next.brought world later
termination_by pipe.rank
decreasing_by all_goals exact pull_lowers _pulled (by simp)

/-- A pull answers with the first item or failure of the transcript. -/
theorem transcript_pull (world : ω) (pipe : Pipe ω α) (hub : Hub α) :
    ∃ calls : List (Announcement α),
      pipe.transcript world hub =
        calls.map .announced ++
          match pipe.pull world hub with
          | (.item value, next, later) => .item value :: next.transcript world later
          | (.done, _, _) => []
          | (.failed error, next, later) => .failed error :: next.transcript world later := by
  fun_induction pull world pipe hub with
  | case1 pipe hub value next later moved =>
      exact ⟨pipe.announced world hub, by rw [transcript_eq]; simp only [moved]⟩
  | case2 pipe hub next later moved ih =>
      obtain ⟨calls, listed⟩ := ih
      refine ⟨pipe.announced world hub ++ calls, ?_⟩
      rw [transcript_eq, List.map_append, List.append_assoc, ← listed]
      simp only [moved]
  | case3 pipe hub next later moved =>
      exact ⟨pipe.announced world hub, by rw [transcript_eq]; simp only [moved]⟩
  | case4 pipe hub error next later moved =>
      exact ⟨pipe.announced world hub, by rw [transcript_eq]; simp only [moved]⟩

theorem brought_eq_values (world : ω) (pipe : Pipe ω α) (hub : Hub α) :
    pipe.brought world hub = Moment.values (pipe.transcript world hub) := by
  fun_induction brought world pipe hub with
  | case1 pipe hub value next later pulled ih =>
      obtain ⟨calls, listed⟩ := transcript_pull world pipe hub
      simp [listed, pulled, ih]
  | case2 pipe hub next later pulled =>
      obtain ⟨calls, listed⟩ := transcript_pull world pipe hub
      simp [listed, pulled]
  | case3 pipe hub error next later pulled ih =>
      obtain ⟨calls, listed⟩ := transcript_pull world pipe hub
      simp [listed, pulled, ih]

/-- Collecting yields the outcome of the transcript. -/
theorem collect_eq_outcome (world : ω) (pipe : Pipe ω α) (hub : Hub α) :
    (pipe.collect world hub).1 = Moment.outcome (pipe.transcript world hub) := by
  fun_induction collect world pipe hub with
  | case1 pipe hub value next later pulled rest final collected ih =>
      obtain ⟨calls, listed⟩ := transcript_pull world pipe hub
      rw [collected] at ih
      simp [listed, pulled, Moment.outcome_map_announced, Moment.outcome, ← ih]
  | case2 pipe hub next later pulled =>
      obtain ⟨calls, listed⟩ := transcript_pull world pipe hub
      rw [listed, pulled, Moment.outcome_map_announced, Moment.outcome]
  | case3 pipe hub error next later pulled =>
      obtain ⟨calls, listed⟩ := transcript_pull world pipe hub
      simp [listed, pulled, Moment.outcome_map_announced, Moment.outcome]

end Pipe

end RoutedGraph
