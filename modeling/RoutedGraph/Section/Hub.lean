import RoutedGraph.Dict
import RoutedGraph.Log

/-!
# Section events

Stages that expand markers announce where each section starts and ends.  A
window of a sorting stage gathers the items of the current section; when the
section ends they are sorted and become ready, behind those that are ready
already.  A hub keeps who listens to which announcements, the windows, and what
has been written down: the notes of listeners and sorters, and the log.
-/

namespace RoutedGraph

/-- How the items of a window are compared, given the marker of the section that ends, if there
is one, and its index. -/
structure Sorter (α : Type) where
  /-- Whether the first item may stand before the second. -/
  inOrder : Option α → Nat → α → α → Bool
  /-- Whether each key taken is written down. -/
  traced : Bool

namespace Sorter

instance {α : Type} : Inhabited (Sorter α) := ⟨⟨fun _ _ _ _ => true, false⟩⟩

/-- The items in order; items that may stand either way keep their order. -/
def sort {α : Type} (sorter : Sorter α) (marker : Option α) (index : Nat) (items : List α) :
    List α :=
  items.mergeSort (sorter.inOrder marker index)

end Sorter

/-- What a sorting stage holds. -/
structure Window (α : Type) where
  index : Nat
  /-- The items of the current section in order of arrival. -/
  pending : List α
  /-- Sorted items that wait to be passed on. -/
  ready : List α
  sorter : Sorter α

namespace Window

variable {α : Type}

def fresh (sorter : Sorter α) : Window α := ⟨0, [], [], sorter⟩

instance : Inhabited (Window α) := ⟨fresh default⟩

/-- A section starts: what is still pending is given up. -/
def start (window : Window α) (index : Nat) : Window α :=
  { window with index := index, pending := [] }

def finish (window : Window α) (marker : Option α) (index : Nat) : Window α :=
  { window with
    pending := []
    ready := window.ready ++ window.sorter.sort marker index window.pending }

def push (window : Window α) (item : α) : Window α :=
  { window with pending := window.pending ++ [item] }

end Window

structure EventsId where
  raw : Nat
  deriving DecidableEq

structure WindowId where
  raw : Nat
  deriving DecidableEq

namespace EventsId

instance : Ord EventsId := ⟨fun first second => compare first.raw second.raw⟩

end EventsId

namespace WindowId

instance : Ord WindowId := ⟨fun first second => compare first.raw second.raw⟩

end WindowId

inductive Subscriber where
  /-- One who writes down what is announced, under a name. -/
  | watcher (name : String)
  | window (id : WindowId)
  deriving DecidableEq

inductive Border where
  | start
  | finish
  deriving DecidableEq

inductive Note (α : Type) where
  | heard (watcher : String) (border : Border) (marker : α) (index : Nat)
  | keyed (item : α) (marker : Option α) (index : Nat)

/-- Listeners, windows and what has been written down. -/
structure Hub (α : Type) where
  /-- Who listens to which announcements, in the order in which they are told. -/
  subscribers : Dict EventsId (List Subscriber)
  windows : Dict WindowId (Window α)
  nextEvents : Nat
  nextWindow : Nat
  /-- The notes that have not been collected, newest first. -/
  notes : List (Note α)
  /-- The log, newest first. -/
  log : List LogEvent

namespace Hub

variable {α : Type}

def empty : Hub α := ⟨Dict.empty, Dict.empty, 0, 0, [], []⟩

instance : Inhabited (Hub α) := ⟨empty⟩

def emit (hub : Hub α) (event : LogEvent) : Hub α := { hub with log := event :: hub.log }

def write (hub : Hub α) (notes : List (Note α)) : Hub α :=
  { hub with notes := notes.reverse ++ hub.notes }

def listeners (hub : Hub α) (events : EventsId) : List Subscriber :=
  hub.subscribers.getD events []

/-- A window, fresh if it is unknown. -/
def window (hub : Hub α) (id : WindowId) : Window α := hub.windows.getD id default

def setWindow (hub : Hub α) (id : WindowId) (window : Window α) : Hub α :=
  { hub with windows := hub.windows.insert id window }

def openEvents (hub : Hub α) : EventsId × Hub α :=
  (⟨hub.nextEvents⟩, { hub with nextEvents := hub.nextEvents + 1 })

def openWindow (hub : Hub α) (sorter : Sorter α) : WindowId × Hub α :=
  let id : WindowId := ⟨hub.nextWindow⟩
  (id, { hub with nextWindow := hub.nextWindow + 1 }.setWindow id (Window.fresh sorter))

/-- Listen to announcements, after those who listen already. -/
def subscribe (hub : Hub α) (events : EventsId) (subscriber : Subscriber) : Hub α :=
  { hub with
    subscribers := hub.subscribers.insert events (hub.listeners events ++ [subscriber]) }

def startWindow (hub : Hub α) (id : WindowId) (index : Nat) : Hub α :=
  (hub.setWindow id ((hub.window id).start index)).emit (.sectionStarted index)

/-- The keys that are written down when a section ends in a window. -/
def keyNotes (window : Window α) (marker : Option α) (index : Nat) : List (Note α) :=
  if window.sorter.traced then window.pending.map fun item => .keyed item marker index else []

/-- End a section in a window; nothing happens if none of its items is pending. -/
def finishWindow (hub : Hub α) (id : WindowId) (marker : Option α) (index : Nat) : Hub α :=
  let window := hub.window id
  if window.pending.isEmpty then hub
  else
    ((hub.write (keyNotes window marker index)).setWindow id (window.finish marker index)).emit
      (.sectionSorted index window.pending.length)

/-- Add an item to the section that a window gathers. -/
def push (hub : Hub α) (id : WindowId) (item : α) : Hub α :=
  hub.setWindow id ((hub.window id).push item)

/-- Take the first item that is ready in a window. -/
def pop? (hub : Hub α) (id : WindowId) : Option (α × Hub α) :=
  match (hub.window id).ready with
  | [] => none
  | item :: rest => some (item, hub.setWindow id { hub.window id with ready := rest })

def tell (hub : Hub α) (border : Border) (marker : α) (index : Nat) : Subscriber → Hub α
  | .watcher name => hub.write [.heard name border marker index]
  | .window id =>
      match border with
      | .start => hub.startWindow id index
      | .finish => hub.finishWindow id (some marker) index

def announce (hub : Hub α) (events : EventsId) (border : Border) (marker : α) (index : Nat) :
    Hub α :=
  (hub.listeners events).foldl (fun current listener => current.tell border marker index listener)
    hub

end Hub

end RoutedGraph
