import RoutedGraph.Section.Hub

/-!
# What windows hear

An announcement changes the windows that listen to it and no others.  A window
that listens twice hears no more than one that listens once, since starting and
ending a section a second time changes nothing.
-/

namespace RoutedGraph

variable {α : Type}

namespace Sorter

@[simp]
theorem sort_nil (sorter : Sorter α) (marker : Option α) (index : Nat) :
    sorter.sort marker index [] = [] := by
  simp [sort]

theorem sort_perm (sorter : Sorter α) (marker : Option α) (index : Nat) (items : List α) :
    (sorter.sort marker index items).Perm items :=
  List.mergeSort_perm items _

end Sorter

namespace Window

/-- Take in that a section starts or ends. -/
def hear (window : Window α) (border : Border) (marker : α) (index : Nat) : Window α :=
  match border with
  | .start => window.start index
  | .finish => window.finish (some marker) index

/-- Ending a section changes nothing if none of its items is pending. -/
theorem finish_of_empty {window : Window α} (empty : window.pending = []) (marker : Option α)
    (index : Nat) : window.finish marker index = window := by
  cases window
  simp_all [finish]

theorem hear_hear (window : Window α) (border : Border) (marker : α) (index : Nat) :
    (window.hear border marker index).hear border marker index =
      window.hear border marker index := by
  cases border with
  | start => rfl
  | finish => exact finish_of_empty rfl _ _

end Window

/-- One announcement that a stage makes. -/
structure Announcement (α : Type) where
  events : EventsId
  border : Border
  marker : α
  index : Nat

/-- Take in an announcement if it is one of those listened to. -/
def Window.attend (hears : EventsId → Bool) (window : Window α) (call : Announcement α) :
    Window α :=
  if hears call.events then window.hear call.border call.marker call.index else window

namespace Hub

variable (hub : Hub α)

/-- Whether a window listens to announcements. -/
def hears (id : WindowId) (events : EventsId) : Bool :=
  decide (Subscriber.window id ∈ hub.listeners events)

@[simp]
theorem window_emit (event : LogEvent) (id : WindowId) :
    (hub.emit event).window id = hub.window id := rfl

@[simp]
theorem window_write (notes : List (Note α)) (id : WindowId) :
    (hub.write notes).window id = hub.window id := rfl

@[simp]
theorem window_setWindow_self (id : WindowId) (window : Window α) :
    (hub.setWindow id window).window id = window := by
  simp [Hub.window, setWindow, Dict.getD]

theorem window_setWindow_of_ne {id other : WindowId} (different : id ≠ other)
    (window : Window α) : (hub.setWindow id window).window other = hub.window other := by
  simp [Hub.window, setWindow, Dict.getD, Dict.get?_insert_of_ne, different]

/-- Ending a section is one change of one window. -/
theorem window_finishWindow_self (id : WindowId) (marker : Option α) (index : Nat) :
    (hub.finishWindow id marker index).window id = (hub.window id).finish marker index := by
  unfold finishWindow
  dsimp only
  split
  · next empty => exact (Window.finish_of_empty (List.isEmpty_iff.mp empty) _ _).symm
  · simp

theorem window_finishWindow_of_ne {id other : WindowId} (different : id ≠ other)
    (marker : Option α) (index : Nat) :
    (hub.finishWindow id marker index).window other = hub.window other := by
  unfold finishWindow
  dsimp only
  split
  · rfl
  · simp [window_setWindow_of_ne, different]

/-- Nobody has begun to listen, and no window has been opened. -/
structure Keeps (before after : Hub α) : Prop where
  subscribers : after.subscribers = before.subscribers
  nextWindow : after.nextWindow = before.nextWindow

variable {hub}

theorem Keeps.refl (hub : Hub α) : Keeps hub hub := ⟨rfl, rfl⟩

theorem Keeps.trans {second third : Hub α} (keeps : Keeps hub second)
    (onward : Keeps second third) : Keeps hub third :=
  ⟨onward.subscribers.trans keeps.subscribers, onward.nextWindow.trans keeps.nextWindow⟩

theorem Keeps.hears {after : Hub α} (keeps : Keeps hub after) : after.hears = hub.hears := by
  unfold Hub.hears Hub.listeners
  rw [keeps.subscribers]

variable (hub)

theorem keeps_finishWindow (id : WindowId) (marker : Option α) (index : Nat) :
    Keeps hub (hub.finishWindow id marker index) := by
  unfold finishWindow
  dsimp only
  split <;> exact ⟨rfl, rfl⟩

theorem keeps_tell (border : Border) (marker : α) (index : Nat) (listener : Subscriber) :
    Keeps hub (hub.tell border marker index listener) := by
  cases listener with
  | watcher name => exact ⟨rfl, rfl⟩
  | window id =>
      cases border with
      | start => exact ⟨rfl, rfl⟩
      | finish => exact hub.keeps_finishWindow id _ _

/-- Telling a listener changes the window that listens. -/
theorem window_tell (border : Border) (marker : α) (index : Nat) (listener : Subscriber)
    (id : WindowId) :
    (hub.tell border marker index listener).window id =
      if listener = .window id then (hub.window id).hear border marker index
      else hub.window id := by
  cases listener with
  | watcher name => simp [tell]
  | window other =>
      by_cases same : other = id
      · subst same
        cases border with
        | start => simp [tell, startWindow, Window.hear]
        | finish => simp [tell, window_finishWindow_self, Window.hear]
      · cases border with
        | start => simp [tell, startWindow, window_setWindow_of_ne, same]
        | finish => simp [tell, window_finishWindow_of_ne, same]

section Announce

variable (events : EventsId) (border : Border) (marker : α) (index : Nat)

theorem keeps_announce : Keeps hub (hub.announce events border marker index) := by
  unfold announce
  generalize hub.listeners events = listeners
  induction listeners generalizing hub with
  | nil => exact Keeps.refl hub
  | cons listener rest ih => exact (hub.keeps_tell border marker index listener).trans (ih _)

theorem hears_announce (id : WindowId) :
    (hub.announce events border marker index).hears id = hub.hears id := by
  rw [(hub.keeps_announce events border marker index).hears]

/-- An announcement is one change of the windows that listen to it. -/
theorem window_announce (id : WindowId) :
    (hub.announce events border marker index).window id =
      (hub.window id).attend (hub.hears id) ⟨events, border, marker, index⟩ := by
  unfold announce Window.attend hears
  generalize hub.listeners events = listeners
  simp only [decide_eq_true_eq]
  induction listeners generalizing hub with
  | nil => simp
  | cons listener rest ih =>
      rw [List.foldl_cons, ih, window_tell]
      by_cases here : listener = .window id
      · simp [here, Window.hear_hear]
      · simp [here, List.mem_cons, Ne.symm here]

end Announce

end Hub

end RoutedGraph
