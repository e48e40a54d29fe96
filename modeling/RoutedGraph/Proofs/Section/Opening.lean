import RoutedGraph.Proofs.Section.Relay
import RoutedGraph.Route.Basic

/-!
# Putting a sorting stage on a route

A new sorting stage opens a window of its own, which is empty and listens to the
events it is given.  No stage that is there already notices.  That the window
is new needs the windows in use to have been opened before: this holds at the
beginning, and everything that is done with routes keeps it.
-/

namespace RoutedGraph

namespace Hub

variable {α : Type} (hub : Hub α)

theorem listeners_subscribe (events : EventsId) (listener : Subscriber) (other : EventsId) :
    (hub.subscribe events listener).listeners other =
      if events = other then hub.listeners other ++ [listener] else hub.listeners other := by
  by_cases same : events = other
  · subst same
    simp [listeners, subscribe, Dict.getD]
  · simp [listeners, subscribe, Dict.getD, Dict.get?_insert_of_ne, same]

theorem hears_subscribe (events : EventsId) (listener : Subscriber) (id : WindowId)
    (other : EventsId) :
    (hub.subscribe events listener).hears id other =
      (hub.hears id other || decide (events = other ∧ listener = .window id)) := by
  rw [Bool.eq_iff_iff]
  have swap : Subscriber.window id = listener ↔ listener = .window id := eq_comm
  by_cases same : events = other <;> simp [hears, listeners_subscribe, same, swap]

variable {hub}

/-- Windows that are used or that listen have been opened. -/
structure Numbers (hub : Hub α) (windows : List WindowId) : Prop where
  used : ∀ id ∈ windows, id.raw < hub.nextWindow
  listening : ∀ id events, hub.hears id events = true → id.raw < hub.nextWindow

theorem numbers_empty : (empty : Hub α).Numbers [] :=
  ⟨fun _ member => by simp at member, fun _ _ heard => by
    simp [hears, listeners, empty, Dict.getD] at heard⟩

namespace Numbers

variable {windows : List WindowId} (numbers : hub.Numbers windows)

include numbers

theorem unused : ⟨hub.nextWindow⟩ ∉ windows := fun member =>
  Nat.lt_irrefl _ (numbers.used _ member)

theorem silent (events : EventsId) : hub.hears ⟨hub.nextWindow⟩ events = false :=
  Bool.eq_false_iff.mpr fun heard => Nat.lt_irrefl _ (numbers.listening _ _ heard)

theorem keeps {after : Hub α} (keeps : Keeps hub after) : after.Numbers windows := by
  refine ⟨fun id member => ?_, fun id events heard => ?_⟩
  · rw [keeps.nextWindow]
    exact numbers.used id member
  · rw [keeps.nextWindow]
    rw [keeps.hears] at heard
    exact numbers.listening id events heard

theorem openWindow (sorter : Sorter α) :
    (hub.openWindow sorter).2.Numbers ((hub.openWindow sorter).1 :: windows) := by
  refine ⟨fun id member => ?_, fun id events heard => ?_⟩
  · rcases List.mem_cons.mp member with rfl | member
    · exact Nat.lt_succ_self _
    · exact Nat.lt_succ_of_lt (numbers.used id member)
  · exact Nat.lt_succ_of_lt (numbers.listening id events heard)

theorem subscribe (events : EventsId) {listener : Subscriber}
    (opened : ∀ id, listener = .window id → id.raw < hub.nextWindow) :
    (hub.subscribe events listener).Numbers windows := by
  refine ⟨numbers.used, fun id other heard => ?_⟩
  rw [hears_subscribe, Bool.or_eq_true, decide_eq_true_eq] at heard
  rcases heard with heard | ⟨-, own⟩
  · exact numbers.listening id other heard
  · exact opened id own

end Numbers

end Hub

namespace Pipe

variable {ω α : Type} {hub : Hub α} {windows : List WindowId}

/-- Pulling keeps the windows numbered. -/
theorem numbers_pull (numbers : hub.Numbers windows) (world : ω) (pipe : Pipe ω α) :
    (pipe.pull world hub).2.2.Numbers windows := by
  have step (pipe : Pipe ω α) {hub : Hub α} (numbers : hub.Numbers windows) :
      (pipe.step world hub).2.2.Numbers windows := numbers.keeps (pipe.keeps_step world hub)
  fun_induction pull world pipe hub with
  | case1 pipe hub value next later moved => simpa [moved] using step pipe numbers
  | case2 pipe hub next later moved ih => exact ih (by simpa [moved] using step pipe numbers)
  | case3 pipe hub next later moved => simpa [moved] using step pipe numbers
  | case4 pipe hub error next later moved => simpa [moved] using step pipe numbers

end Pipe

namespace Route

/-- What can be done with the hub of some routes.  The windows are those of all sorting stages. -/
inductive Reached : Hub Item → List WindowId → Prop where
  | empty : Reached Hub.empty []
  | openEvents {hub windows} (reached : Reached hub windows) : Reached hub.openEvents.2 windows
  | listen {hub windows} (reached : Reached hub windows) (events : EventsId) (name : String) :
      Reached (hub.subscribe events (.watcher name)) windows
  | announce {hub windows} (reached : Reached hub windows) (events : EventsId) (border : Border)
      (marker : Item) (index : Nat) : Reached (hub.announce events border marker index) windows
  | sections {hub windows} (reached : Reached hub windows) (route : Route) (type : ElementType)
      (expand : Stores → Item → Except RouteError (List Item)) :
      Reached (route.sections type expand hub).2 windows
  | sort {hub windows} (reached : Reached hub windows) (route : Route) (sorter : Sorter Item) :
      Reached (route.sort sorter hub).2 (⟨hub.nextWindow⟩ :: windows)
  | sortSections {hub windows} (reached : Reached hub windows) (route : Route)
      (events : EventsId) (sorter : Sorter Item) :
      Reached (route.sortSections events sorter hub).2 (⟨hub.nextWindow⟩ :: windows)
  | pull {hub windows} (reached : Reached hub windows) (stores : Stores) (route : Route) :
      Reached (route.pipe.pull stores hub).2.2 windows

/-- A new window is always new. -/
theorem Reached.numbers {hub : Hub Item} {windows : List WindowId}
    (reached : Reached hub windows) : hub.Numbers windows := by
  induction reached with
  | empty => exact Hub.numbers_empty
  | openEvents reached ih => exact ih.keeps ⟨rfl, rfl⟩
  | listen reached events name ih => exact ih.subscribe events fun _ own => by cases own
  | announce reached events border marker index ih => exact ih.keeps (Hub.keeps_announce _ _ _ _ _)
  | sections reached route type expand ih => exact ih.keeps ⟨rfl, rfl⟩
  | sort reached route sorter ih => exact (ih.openWindow sorter).keeps ⟨rfl, rfl⟩
  | @sortSections hub windows reached route events sorter ih =>
      refine (ih.openWindow sorter).subscribe events fun id own => ?_
      cases own
      exact Nat.lt_succ_self _
  | pull reached stores route ih => exact Pipe.numbers_pull ih stores route.pipe

section SortSections

variable {windows : List WindowId} (route : Route) (events : EventsId) (sorter : Sorter Item)

theorem hears_sortSections (hub : Hub Item) (id : WindowId) (other : EventsId) :
    (route.sortSections events sorter hub).2.hears id other =
      (hub.hears id other || decide (events = other ∧ ⟨hub.nextWindow⟩ = id)) := by
  refine ((hub.openWindow sorter).2.hears_subscribe events (.window ⟨hub.nextWindow⟩) id
    other).trans ?_
  simp only [Subscriber.window.injEq]
  rfl

theorem window_sortSections (hub : Hub Item) :
    (route.sortSections events sorter hub).2.window ⟨hub.nextWindow⟩ = Window.fresh sorter :=
  Hub.window_setWindow_self _ _ _

/-- The windows that are there do not notice a new sorting stage. -/
theorem agree_sortSections {hub : Hub Item} (unused : ⟨hub.nextWindow⟩ ∉ windows) :
    Hub.Agree windows hub (route.sortSections events sorter hub).2 := by
  refine ⟨fun id member => ?_, fun id member => ?_⟩ <;>
    have different : (⟨hub.nextWindow⟩ : WindowId) ≠ id := fun same => unused (same ▸ member)
  · funext other
    simp [hears_sortSections, different]
  · exact hub.window_setWindow_of_ne different _

/-- The transcript of a new sorting stage. -/
theorem transcript_sortSections {hub : Hub Item} (stores : Stores)
    (unused : ⟨hub.nextWindow⟩ ∉ route.pipe.windows) :
    (route.sortSections events sorter hub).1.pipe.transcript stores
        (route.sortSections events sorter hub).2 =
      (Window.fresh sorter).relay
        ((route.sortSections events sorter hub).2.hears ⟨hub.nextWindow⟩)
        (route.pipe.transcript stores hub) := by
  rw [← Pipe.transcript_congr (route.agree_sortSections events sorter unused)]
  exact Pipe.transcript_sort unused (route.window_sortSections events sorter hub)

end SortSections

end Route

end RoutedGraph
