import RoutedGraph.Proofs.Section.Opening
import RoutedGraph.Proofs.Section.Protocol

/-!
# The journal of a sorting stage

The journal of a sorting stage lists what it does in some pulls, whatever its
supply brings, announces and fails at, and however the world changes between
the pulls.  It follows the protocol of sorting stages, so that the windows that
have ended come whole and in order.
-/

namespace RoutedGraph

open Sorting

variable {ω α : Type}

/-- The answer of a pull that ends with a step. -/
def Motion.answer? : Motion α → Option (Answer α)
  | item value => some (.item value)
  | skip => none
  | done => some .done
  | failed error => some (.failed error)

/-- What a sorting stage learns when its supply has moved. -/
def Sorting.Act.ofMotion : Motion α → List (Act α)
  | .item value => [.buffer value]
  | .skip => []
  | .done => [.close]
  | .failed error => [.refuse error]

namespace Pipe

/-- What a sorting stage does in a step. -/
def acts (world : ω) : Pipe ω α → Hub α → List (Act α)
  | sort window held pulling exhausted supply, hub =>
      match ready? window held pulling hub with
      | some (item, _, _) => [.give item]
      | none =>
          if exhausted then [.stop]
          else
            (if pulling then [] else [.ask]) ++
              ((supply.announced world hub).map .hear ++ Act.ofMotion (supply.step world hub).1)
  | _, _ => []

/-- What a sorting stage does in a pull. -/
def pullActs (world : ω) (pipe : Pipe ω α) (hub : Hub α) : List (Act α) :=
  pipe.acts world hub ++
    match _moved : pipe.step world hub with
    | (.skip, next, later) => next.pullActs world later
    | _ => []
termination_by pipe.rank
decreasing_by exact step_lowers _moved (by simp)

/-- What a sorting stage does in some pulls. -/
def journal : List ω → Pipe ω α → Hub α → List (Act α)
  | [], _, _ => []
  | world :: worlds, pipe, hub =>
      pipe.pullActs world hub ++
        journal worlds (pipe.pull world hub).2.1 (pipe.pull world hub).2.2

/-- The answers of some pulls. -/
def answers : List ω → Pipe ω α → Hub α → List (Answer α)
  | [], _, _ => []
  | world :: worlds, pipe, hub =>
      (pipe.pull world hub).1 ::
        answers worlds (pipe.pull world hub).2.1 (pipe.pull world hub).2.2

/-- What a pipe and the hub have become after some pulls. -/
def pulls : List ω → Pipe ω α → Hub α → Pipe ω α × Hub α
  | [], pipe, hub => (pipe, hub)
  | world :: worlds, pipe, hub => pulls worlds (pipe.pull world hub).2.1 (pipe.pull world hub).2.2

theorem pullActs_eq (world : ω) (pipe : Pipe ω α) (hub : Hub α) :
    pipe.pullActs world hub =
      pipe.acts world hub ++
        match pipe.step world hub with
        | (.skip, next, later) => next.pullActs world later
        | _ => [] := by
  rw [pullActs]
  split <;> simp_all

variable {window : WindowId} {hears : EventsId → Bool} {state : State α} {pipe : Pipe ω α}
  {hub : Hub α}

/-- A pipe is a sorting stage in a given state. -/
structure IsSort (window : WindowId) (hears : EventsId → Bool) (state : State α) (pipe : Pipe ω α)
    (hub : Hub α) : Prop where
  stage : ∃ held supply,
    pipe = sort window held (state.phase = .pulling) (state.phase = .closed) supply ∧
      window ∉ supply.windows ∧ state.window.load ≤ held
  hears : hub.hears window = hears
  window : hub.window window = state.window

/-- What a step of a sorting stage makes of it. -/
structure Follows (window : WindowId) (hears : EventsId → Bool) (before : State α)
    (acts : List (Act α)) (moved : Motion α × Pipe ω α × Hub α) (after : State α) : Prop where
  runs : Runs hears before acts after
  isSort : IsSort window hears after moved.2.1 moved.2.2
  answers : acts.filterMap Act.answer? = moved.1.answer?.toList
  answered : moved.1.answer?.isSome = true → after.phase ≠ .pulling

/-- Nothing is ready if the stage passes nothing on, unless it waits for its supply. -/
theorem ready_eq_nil {held : Nat} {content : Window α} (same : hub.window window = content)
    (room : content.load ≤ held) (nothing : ready? window held false hub = none) :
    content.ready = [] := by
  subst same
  cases held with
  | zero =>
      have empty : (hub.window window).ready.length = 0 := by
        unfold Window.load at room
        omega
      exact List.eq_nil_of_length_eq_zero empty
  | succ rest =>
      cases listed : (hub.window window).ready with
      | nil => rfl
      | cons item items => simp [ready?, Hub.pop?, listed] at nothing

/-- A sorting stage whose supply moves. -/
theorem follows_stepSort (world : ω) {supply : Pipe ω α} {held : Nat} {content : Window α}
    (apart : window ∉ supply.windows) (room : content.load ≤ held)
    (heard : hub.hears window = hears) (same : hub.window window = content) :
    ∃ after, Follows window hears ⟨.pulling, content⟩
      ((supply.announced world hub).map .hear ++ Act.ofMotion (supply.step world hub).1)
      (stepSort window held (supply.step world hub)) after := by
  have hearing := hears_step world supply hub
  have taken := window_step world apart hub
  have stages := windows_step world supply hub
  rw [heard, same] at taken
  generalize supply.announced world hub = calls at taken ⊢
  generalize supply.step world hub = moved at hearing taken stages ⊢
  obtain ⟨motion, next, later⟩ := moved
  have stillHeard : later.hears window = hears := (congrFun hearing window).trans heard
  have stillApart : window ∉ next.windows := stages ▸ apart
  have less : (calls.foldl (Window.attend hears) content).load ≤ held :=
    Nat.le_trans (Window.load_foldl _ _ _) room
  have silent : (calls.map Act.hear).filterMap Act.answer? = [] := by
    simp [Act.answer?]
  have hearings : Runs hears _ _ _ := runs_hears calls content
  generalize calls.foldl (Window.attend hears) content = current at taken less hearings
  -- What is announced comes before the answer, which decides how the stage goes on.
  cases motion with
  | item value =>
      refine ⟨⟨.resting, current.push value⟩, hearings.append (Moves.buffer _ value).runs,
        ⟨⟨held + 1, next, rfl, stillApart, ?_⟩, stillHeard, ?_⟩, ?_, by simp⟩
      · simp only [Window.load, Window.push, List.length_append, List.length_singleton] at less ⊢
        omega
      · exact (later.window_setWindow_self window _).trans (by rw [taken])
      · simp [stepSort, Act.ofMotion, Act.answer?, Motion.answer?]
  | skip =>
      refine ⟨⟨.pulling, current⟩, hearings.append (.nil _),
        ⟨⟨held, next, rfl, stillApart, less⟩, stillHeard, taken⟩, ?_, ?_⟩
      · simp [stepSort, Act.ofMotion, Act.answer?, Motion.answer?]
      · simp [stepSort, Motion.answer?]
  | done =>
      refine ⟨⟨.closed, current.finish none current.index⟩, hearings.append (Moves.close _).runs,
        ⟨⟨held, next, rfl, stillApart, ?_⟩, ?_, ?_⟩, ?_, by simp⟩
      · simpa [Window.load, Window.finish, Sorter.sort] using less
      · exact (congrFun (later.keeps_finishWindow window none _).hears window).trans stillHeard
      · exact (later.window_finishWindow_self window none _).trans (by rw [taken])
      · simp [stepSort, Act.ofMotion, Act.answer?, Motion.answer?]
  | failed error =>
      refine ⟨⟨.resting, current⟩, hearings.append (Moves.refuse _ error).runs,
        ⟨⟨held, next, rfl, stillApart, less⟩, stillHeard, taken⟩, ?_, by simp⟩
      simp [stepSort, Act.ofMotion, Act.answer?, Motion.answer?]

theorem IsSort.step (isSort : IsSort window hears state pipe hub) (world : ω) :
    ∃ after, Follows window hears state (pipe.acts world hub) (pipe.step world hub) after := by
  obtain ⟨⟨held, supply, rfl, apart, room⟩, heard, same⟩ := isSort
  obtain ⟨phase, content⟩ := state
  simp only [acts, step]
  rcases ready?_cases window held (decide (phase = .pulling)) content with
    none | ⟨item, rest, items, rfl, answered, listed, some⟩
  · have nothing := none hub same
    rw [nothing]
    cases phase with
    | closed =>
        have drained : content.ready = [] := ready_eq_nil same room nothing
        refine ⟨⟨.closed, content⟩, (Moves.stop drained).runs,
          ⟨⟨held, supply, rfl, apart, room⟩, heard, same⟩, rfl, by simp⟩
    | resting =>
        have drained : content.ready = [] := ready_eq_nil same room nothing
        obtain ⟨after, follows⟩ := follows_stepSort world apart room heard same
        exact ⟨after, .cons (.ask drained) follows.runs, follows.isSort, follows.answers,
          follows.answered⟩
    | pulling => exact follows_stepSort world apart room heard same
  · rw [some hub same]
    have waits : phase ≠ .pulling := of_decide_eq_false answered
    refine ⟨⟨phase, { content with ready := items }⟩, (Moves.give waits listed).runs,
      ⟨⟨rest, supply, ?_, apart, ?_⟩, heard, hub.window_setWindow_self window _⟩, rfl,
      fun _ => waits⟩
    · rw [answered]
    · simp only [Window.load, listed, List.length_cons] at room ⊢
      omega

/-- What some pulls of a sorting stage make of it. -/
structure Answers (window : WindowId) (hears : EventsId → Bool) (before : State α)
    (acts : List (Act α)) (answers : List (Answer α)) (pipe : Pipe ω α) (hub : Hub α)
    (after : State α) : Prop where
  runs : Runs hears before acts after
  isSort : IsSort window hears after pipe hub
  answers : acts.filterMap Act.answer? = answers
  answered : after.phase ≠ .pulling

theorem IsSort.pull (isSort : IsSort window hears state pipe hub) (world : ω) :
    ∃ after, Answers window hears state (pipe.pullActs world hub) [(pipe.pull world hub).1]
      (pipe.pull world hub).2.1 (pipe.pull world hub).2.2 after := by
  induction pipe, hub using pull.induct world generalizing state with
  | case2 pipe hub next later moved ih =>
      obtain ⟨middle, follows⟩ := isSort.step world
      rw [moved] at follows
      obtain ⟨after, onward⟩ := ih follows.isSort
      rw [pullActs_eq, pull_eq, moved]
      refine ⟨after, follows.runs.append onward.runs, onward.isSort, ?_, onward.answered⟩
      rw [List.filterMap_append, follows.answers, onward.answers]
      rfl
  | _ =>
      rename_i moved
      obtain ⟨after, follows⟩ := isSort.step world
      rw [moved] at follows
      rw [pullActs_eq, pull_eq, moved, List.append_nil]
      exact ⟨after, follows.runs, follows.isSort, follows.answers, follows.answered rfl⟩

theorem IsSort.pulls (isSort : IsSort window hears state pipe hub)
    (answered : state.phase ≠ .pulling) (worlds : List ω) :
    ∃ after, Answers window hears state (journal worlds pipe hub) (answers worlds pipe hub)
      (pulls worlds pipe hub).1 (pulls worlds pipe hub).2 after := by
  induction worlds generalizing state pipe hub with
  | nil => exact ⟨state, .nil _, isSort, rfl, answered⟩
  | cons world worlds ih =>
      obtain ⟨middle, first⟩ := isSort.pull world
      obtain ⟨after, onward⟩ := ih first.isSort first.answered
      refine ⟨after, first.runs.append onward.runs, onward.isSort, ?_, onward.answered⟩
      rw [journal, List.filterMap_append, first.answers, onward.answers]
      rfl

section Fresh

variable {sorter : Sorter α} (isSort : IsSort window hears ⟨.resting, Window.fresh sorter⟩ pipe hub)
  {worlds : List ω} {past rest : List (Act α)}

include isSort

/-- When the supply has reached its end, what is ready is all that follows. -/
theorem IsSort.ends (listed : journal worlds pipe hub = past ++ .close :: rest) :
    ∃ left count, released hears sorter .empty (past ++ [.close]) = given past ++ left ∧
      rest <+: left.map .give ++ List.replicate count .stop := by
  obtain ⟨final, answers⟩ := isSort.pulls (by simp) worlds
  have runs := answers.runs
  rw [listed] at runs
  obtain ⟨middle, before, onward⟩ := runs.split
  cases onward with
  | cons moves onward =>
      have kept := (before.append moves.runs).keeps.2.2
      cases moves with
      | close content =>
          obtain ⟨count, follows⟩ := onward.ends rfl
          refine ⟨_, count, kept.trans ?_, follows⟩
          simp [given, Act.given?]

end Fresh

end Pipe

namespace Route

end Route

end RoutedGraph
