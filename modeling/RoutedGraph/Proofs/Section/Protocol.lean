import RoutedGraph.Pipe.Basic
import RoutedGraph.Proofs.Section.Hearing

/-!
# The protocol of a sorting stage

A sorting stage pulls its supply only when nothing is ready.  Sections may end
while it does, and items that arrive are buffered; so at most one section with
items ends before the supply answers, and its items are the next ones that are
returned.  Once the supply has reached its end, only what is ready follows.
-/

namespace RoutedGraph

namespace Sorting

variable {α : Type}

/-- What a sorting stage does, and what it learns from its supply. -/
inductive Act (α : Type) where
  /-- Begin to pull the supply. -/
  | ask
  /-- Something is announced while the supply is pulled. -/
  | hear (call : Announcement α)
  /-- The supply brings an item, which is buffered. -/
  | buffer (item : α)
  /-- The supply fails, and with it the pull of the stage. -/
  | refuse (error : RouteError)
  /-- The supply reaches its end. -/
  | close
  | give (item : α)
  /-- Answer that nothing follows. -/
  | stop

namespace Act

/-- The answer of the pull that an act ends. -/
def answer? : Act α → Option (Answer α)
  | refuse error => some (.failed error)
  | give item => some (.item item)
  | stop => some .done
  | _ => none

def given? : Act α → Option α
  | give item => some item
  | _ => none

/-- Whether an act belongs to a pull of the supply that has begun. -/
def isOfSupply : Act α → Bool
  | hear _ => true
  | buffer _ => true
  | refuse _ => true
  | close => true
  | _ => false

end Act

/-- The items that have been returned. -/
def given (acts : List (Act α)) : List α := acts.filterMap Act.given?

/-- The items that have been buffered in the current window, and the number of its section. -/
structure Gathering (α : Type) where
  index : Nat
  pending : List α

namespace Gathering

def empty : Gathering α := ⟨0, []⟩

variable (hears : EventsId → Bool) (sorter : Sorter α) (gathering : Gathering α)

/-- The marker and the number with which a window ends: those of the section that ends, or at the
end of the supply the number of the last section that has started. -/
def ends? : Act α → Option (Option α × Nat)
  | .hear ⟨events, .finish, marker, index⟩ =>
      if hears events then some (some marker, index) else none
  | .close => some (none, gathering.index)
  | _ => none

/-- What is buffered after an act. -/
def after : Act α → Gathering α
  | .hear ⟨events, .start, _, index⟩ => if hears events then ⟨index, []⟩ else gathering
  | .hear ⟨events, .finish, _, _⟩ =>
      if hears events then { gathering with pending := [] } else gathering
  | .buffer item => { gathering with pending := gathering.pending ++ [item] }
  | .close => { gathering with pending := [] }
  | _ => gathering

/-- The items of the window that an act ends, in order. -/
def batch (act : Act α) : List α :=
  match gathering.ends? hears act with
  | some (marker, index) => sorter.sort marker index gathering.pending
  | none => []

end Gathering

/-- The items of all windows that have ended, window by window. -/
def released (hears : EventsId → Bool) (sorter : Sorter α) :
    Gathering α → List (Act α) → List α
  | _, [] => []
  | gathering, act :: rest =>
      gathering.batch hears sorter act ++ released hears sorter (gathering.after hears act) rest

inductive Phase where
  /-- The supply is not being pulled. -/
  | resting
  | pulling
  /-- The supply has reached its end. -/
  | closed
  deriving DecidableEq

/-- What matters of a sorting stage for what it may do next. -/
structure State (α : Type) where
  phase : Phase
  window : Window α

/-- What a sorting stage may do. -/
inductive Moves (hears : EventsId → Bool) : State α → Act α → State α → Prop where
  | ask {window : Window α} (drained : window.ready = []) :
      Moves hears ⟨.resting, window⟩ .ask ⟨.pulling, window⟩
  | hear (window : Window α) (call : Announcement α) :
      Moves hears ⟨.pulling, window⟩ (.hear call) ⟨.pulling, window.attend hears call⟩
  | buffer (window : Window α) (item : α) :
      Moves hears ⟨.pulling, window⟩ (.buffer item) ⟨.resting, window.push item⟩
  | refuse (window : Window α) (error : RouteError) :
      Moves hears ⟨.pulling, window⟩ (.refuse error) ⟨.resting, window⟩
  | close (window : Window α) :
      Moves hears ⟨.pulling, window⟩ .close ⟨.closed, window.finish none window.index⟩
  | give {phase : Phase} {window : Window α} {item : α} {items : List α}
      (answered : phase ≠ .pulling) (listed : window.ready = item :: items) :
      Moves hears ⟨phase, window⟩ (.give item) ⟨phase, { window with ready := items }⟩
  | stop {window : Window α} (drained : window.ready = []) :
      Moves hears ⟨.closed, window⟩ .stop ⟨.closed, window⟩

/-- What a sorting stage may do in a row. -/
inductive Runs (hears : EventsId → Bool) : State α → List (Act α) → State α → Prop where
  | nil (state : State α) : Runs hears state [] state
  | cons {first second third : State α} {act : Act α} {acts : List (Act α)}
      (moves : Moves hears first act second) (runs : Runs hears second acts third) :
      Runs hears first (act :: acts) third

variable {hears : EventsId → Bool} {first second third : State α} {acts others : List (Act α)}

theorem Moves.runs {act : Act α} (moves : Moves hears first act second) :
    Runs hears first [act] second := .cons moves (.nil _)

theorem Runs.append (runs : Runs hears first acts second)
    (onward : Runs hears second others third) : Runs hears first (acts ++ others) third := by
  induction runs with
  | nil state => exact onward
  | cons moves runs ih => exact .cons moves (ih onward)

theorem Runs.split {acts : List (Act α)} (runs : Runs hears first (acts ++ others) third) :
    ∃ second, Runs hears first acts second ∧ Runs hears second others third := by
  induction acts generalizing first with
  | nil => exact ⟨first, .nil _, runs⟩
  | cons act acts ih =>
      cases runs with
      | cons moves runs =>
          obtain ⟨second, before, onward⟩ := ih runs
          exact ⟨second, .cons moves before, onward⟩

theorem runs_hears (calls : List (Announcement α)) (window : Window α) :
    Runs hears ⟨.pulling, window⟩ (calls.map .hear)
      ⟨.pulling, calls.foldl (Window.attend hears) window⟩ := by
  induction calls generalizing window with
  | nil => exact .nil _
  | cons call calls ih => exact .cons (.hear window call) (ih _)

/-- What is buffered in a window. -/
def Gathering.ofWindow (window : Window α) : Gathering α := ⟨window.index, window.pending⟩

/-- An act changes what is buffered as it should, and what is ready by what it releases and what is
returned. -/
structure Moves.Keeps (hears : EventsId → Bool) (before : Window α) (act : Act α)
    (after : Window α) : Prop where
  gathering : .ofWindow after = (Gathering.ofWindow before).after hears act
  sorter : after.sorter = before.sorter
  ready : before.ready ++ (Gathering.ofWindow before).batch hears before.sorter act =
    act.given?.toList ++ after.ready

theorem Moves.keeps {act : Act α} (moves : Moves hears first act second) :
    Keeps hears first.window act second.window := by
  cases moves with
  | ask drained => exact ⟨rfl, rfl, List.append_nil _⟩
  | hear window call =>
      obtain ⟨events, border, marker, index⟩ := call
      by_cases heard : hears events = true
      · cases border <;>
          constructor <;>
          simp [heard, Window.attend, Window.hear, Window.start, Window.finish, Gathering.ofWindow,
            Gathering.after, Gathering.batch, Gathering.ends?, Act.given?]
      · cases border <;>
          constructor <;>
          simp [heard, Window.attend, Gathering.after, Gathering.batch, Gathering.ends?, Act.given?]
  | buffer window item => exact ⟨rfl, rfl, List.append_nil _⟩
  | refuse window error => exact ⟨rfl, rfl, List.append_nil _⟩
  | close window => exact ⟨rfl, rfl, rfl⟩
  | give answered listed =>
      exact ⟨rfl, rfl, by simp [listed, Gathering.batch, Gathering.ends?, Act.given?]⟩
  | stop drained => exact ⟨rfl, rfl, List.append_nil _⟩

theorem Runs.keeps (runs : Runs hears first acts second) :
    .ofWindow second.window = acts.foldl (Gathering.after hears) (.ofWindow first.window) ∧
      second.window.sorter = first.window.sorter ∧
      first.window.ready ++ released hears first.window.sorter (.ofWindow first.window) acts =
        given acts ++ second.window.ready := by
  induction runs with
  | nil state => exact ⟨rfl, rfl, List.append_nil _⟩
  | @cons first second third act acts moves runs ih =>
      obtain ⟨gathering, sorter, ready⟩ := ih
      have kept := moves.keeps
      refine ⟨?_, sorter.trans kept.sorter, ?_⟩
      · rw [List.foldl_cons, ← kept.gathering]
        exact gathering
      · rw [kept.gathering, kept.sorter] at ready
        rw [released, ← List.append_assoc, kept.ready, List.append_assoc, ready, given, given,
          ← List.append_assoc]
        cases act <;> rfl

/-- While the supply is pulled, nothing is ready or nothing is buffered. -/
def State.Alone (state : State α) : Prop :=
  state.phase = .pulling → state.window.ready = [] ∨ state.window.pending = []

theorem Moves.alone {act : Act α} (moves : Moves hears first act second) (alone : first.Alone) :
    second.Alone := by
  cases moves with
  | ask drained => exact fun _ => .inl drained
  | hear window call =>
      intro pulling
      obtain ⟨events, border, marker, index⟩ := call
      by_cases heard : hears events = true
      · cases border <;> exact .inr (by simp [Window.attend, heard, Window.hear, Window.start,
          Window.finish])
      · simpa [Window.attend, heard] using alone pulling
  | give answered listed => exact fun pulling => absurd pulling answered
  | _ => exact fun pulling => by cases pulling

theorem Runs.alone (runs : Runs hears first acts second) (alone : first.Alone) : second.Alone := by
  induction runs with
  | nil state => exact alone
  | cons moves runs ih => exact ih (moves.alone alone)

/-- When nothing is buffered, an announcement leaves it so and makes nothing ready. -/
theorem attend_of_empty (hears : EventsId → Bool) {window : Window α}
    (empty : window.pending = []) (call : Announcement α) :
    (window.attend hears call).pending = [] ∧ (window.attend hears call).ready = window.ready := by
  obtain ⟨events, border, marker, index⟩ := call
  unfold Window.attend
  split
  · cases border with
    | start => exact ⟨rfl, rfl⟩
    | finish => simp [Window.hear, Window.finish_of_empty empty, empty]
  · exact ⟨empty, rfl⟩

/-- When nothing is buffered, the rest of a pull of the supply leaves what is ready. -/
theorem Runs.answers (runs : Runs hears first acts second) (pulling : first.phase = .pulling)
    (empty : first.window.pending = []) (answered : second.phase ≠ .pulling) :
    ∃ tail later middle, acts = tail ++ later ∧ (∀ act ∈ tail, act.isOfSupply = true) ∧
      Runs hears middle later second ∧ middle.phase ≠ .pulling ∧
      middle.window.ready = first.window.ready := by
  -- Announcements prolong the pull, and any answer ends it.
  induction runs with
  | nil state => exact absurd pulling answered
  | @cons first second third act acts moves runs ih =>
      cases moves with
      | hear window call =>
          obtain ⟨pending, ready⟩ := attend_of_empty hears empty call
          obtain ⟨tail, later, middle, rfl, ofSupply, onward, waits, kept⟩ :=
            ih rfl pending answered
          exact ⟨.hear call :: tail, later, middle, rfl, by simpa [Act.isOfSupply] using ofSupply,
            onward, waits, kept.trans ready⟩
      | buffer window item =>
          exact ⟨[.buffer item], acts, _, rfl, by simp [Act.isOfSupply], runs, by simp, rfl⟩
      | refuse window error =>
          exact ⟨[.refuse error], acts, _, rfl, by simp [Act.isOfSupply], runs, by simp, rfl⟩
      | close window =>
          refine ⟨[.close], acts, _, rfl, by simp [Act.isOfSupply], runs, by simp, ?_⟩
          exact congrArg Window.ready (Window.finish_of_empty empty none window.index)
      | give waits listed => exact absurd pulling waits
      | _ => cases pulling

/-- At the end of the supply, what is ready follows and then only the answer that nothing does. -/
theorem Runs.ends (runs : Runs hears first acts second) (closed : first.phase = .closed) :
    ∃ count, acts <+: first.window.ready.map .give ++ List.replicate count .stop := by
  induction runs with
  | nil state => exact ⟨0, List.nil_prefix⟩
  | @cons first second third act acts moves runs ih =>
      cases moves with
      | give answered listed =>
          obtain ⟨count, onward⟩ := ih closed
          refine ⟨count, ?_⟩
          rw [listed]
          exact List.cons_prefix_cons.mpr ⟨rfl, onward⟩
      | stop drained =>
          obtain ⟨count, onward⟩ := ih closed
          refine ⟨count + 1, ?_⟩
          rw [drained] at onward ⊢
          exact List.cons_prefix_cons.mpr ⟨rfl, onward⟩
      | _ => cases closed

end Sorting

end RoutedGraph
