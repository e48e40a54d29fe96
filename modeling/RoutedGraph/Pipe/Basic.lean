import RoutedGraph.Section.Hub

/-!
# Pipes

A pipe is a stack of stages over a source, and it moves in small steps.  A step
brings an item, moves on without bringing anything, reaches an end, or fails.
Neither an end nor a failure is final: a pipe can always be moved again.
-/

namespace RoutedGraph

/-- One entry of a scripted source. -/
inductive Cue (α : Type) where
  | announce (border : Border) (marker : α) (index : Nat)
  | fail (error : RouteError)
  /-- Reach an end, although more may follow. -/
  | stop
  | item (item : α)

/-- A stack of stages.  `ω` is what stages may read, and `α` is what they pass on. -/
inductive Pipe (ω α : Type) where
  /-- Items that are read as they are reached. -/
  | source (readings : List (ω → Except RouteError α))
  | script (events : EventsId) (cues : List (Cue α))
  /-- Change each item, given how many came before it. -/
  | map (change : ω → Nat → α → Except RouteError α) (seen : Nat) (supply : Pipe ω α)
  /-- Pass on some items, given how many came before each. -/
  | select (keeps : Nat → α → Bool) (seen : Nat) (supply : Pipe ω α)
  /-- Expand each item into a section.  `current` is the marker of the section that has started,
  `children` are those of its items that are left, and `index` is its number, or that of the next
  one. -/
  | sections (expand : ω → α → Except RouteError (List α)) (events : EventsId)
      (current : Option α) (children : List α) (index : Nat) (supply : Pipe ω α)
  /-- Sort the sections that a window gathers.  `held` counts the items pushed and not yet taken
  back, `pulling` says that the supply has been moved and has not answered yet, and `exhausted`
  that it has reached an end. -/
  | sort (window : WindowId) (held : Nat) (pulling exhausted : Bool) (supply : Pipe ω α)

inductive Motion (α : Type) where
  | item (item : α)
  | skip
  | done
  | failed (error : RouteError)

inductive Answer (α : Type) where
  | item (item : α)
  | done
  | failed (error : RouteError)

namespace Motion

variable {α : Type}

def ofExcept : Except RouteError α → Motion α
  | .ok value => .item value
  | .error error => .failed error

theorem ofExcept_ne_done (result : Except RouteError α) : ofExcept result ≠ done := by
  cases result <;> simp [ofExcept]

end Motion

namespace Pipe

variable {ω α : Type}

def ofItems (items : List α) : Pipe ω α := source (items.map fun item _ => .ok item)

/-- Move an expanding stage whose section has no items left: the section that has started ends,
and the next marker starts a new one. -/
def stepSections (world : ω) (expand : ω → α → Except RouteError (List α)) (events : EventsId)
    (index : Nat) : Motion α × Pipe ω α × Hub α → Motion α × Pipe ω α × Hub α
  | (.item marker, supply, hub) =>
      let started := hub.announce events .start marker index
      match expand world marker with
      | .ok children => (.skip, sections expand events (some marker) children index supply, started)
      | .error error => (.failed error, sections expand events none [] index supply, started)
  | (.skip, supply, hub) => (.skip, sections expand events none [] index supply, hub)
  | (.done, supply, hub) => (.done, sections expand events none [] index supply, hub)
  | (.failed error, supply, hub) =>
      (.failed error, sections expand events none [] index supply, hub)

/-- Move a sorting stage whose supply has moved. -/
def stepSort (window : WindowId) (held : Nat) :
    Motion α × Pipe ω α × Hub α → Motion α × Pipe ω α × Hub α
  | (.item item, supply, hub) =>
      (.skip, sort window (held + 1) false false supply, hub.push window item)
  | (.skip, supply, hub) => (.skip, sort window held true false supply, hub)
  | (.done, supply, hub) =>
      let index := (hub.window window).index
      (.skip, sort window held false true supply,
        (hub.finishWindow window none index).emit (.supplyExhausted index))
  | (.failed error, supply, hub) => (.failed error, sort window held false false supply, hub)

/-- The next item that a sorting stage passes on, with how many it then still holds.  It passes
on nothing while its supply has not answered. -/
def ready? (window : WindowId) (held : Nat) (pulling : Bool) (hub : Hub α) :
    Option (α × Nat × Hub α) :=
  match held, pulling with
  | rest + 1, false => (hub.pop? window).map fun (item, popped) => (item, rest, popped)
  | _, _ => none

def step (world : ω) : Pipe ω α → Hub α → Motion α × Pipe ω α × Hub α
  | source [], hub => (.done, source [], hub)
  | source (reading :: rest), hub => (Motion.ofExcept (reading world), source rest, hub)
  | script events [], hub => (.done, script events [], hub)
  | script events (.announce border marker index :: rest), hub =>
      (.skip, script events rest, hub.announce events border marker index)
  | script events (.fail error :: rest), hub => (.failed error, script events rest, hub)
  | script events (.stop :: rest), hub => (.done, script events rest, hub)
  | script events (.item item :: rest), hub => (.item item, script events rest, hub)
  | map change seen supply, hub =>
      match supply.step world hub with
      | (.item item, next, later) =>
          (Motion.ofExcept (change world seen item), map change (seen + 1) next, later)
      | (.skip, next, later) => (.skip, map change seen next, later)
      | (.done, next, later) => (.done, map change seen next, later)
      | (.failed error, next, later) => (.failed error, map change seen next, later)
  | select keeps seen supply, hub =>
      match supply.step world hub with
      | (.item item, next, later) =>
          (if keeps seen item then .item item else .skip, select keeps (seen + 1) next, later)
      | (.skip, next, later) => (.skip, select keeps seen next, later)
      | (.done, next, later) => (.done, select keeps seen next, later)
      | (.failed error, next, later) => (.failed error, select keeps seen next, later)
  | sections expand events current (child :: children) index supply, hub =>
      (.item child, sections expand events current children index supply, hub)
  | sections expand events (some marker) [] index supply, hub =>
      stepSections world expand events (index + 1)
        (supply.step world (hub.announce events .finish marker index))
  | sections expand events none [] index supply, hub =>
      stepSections world expand events index (supply.step world hub)
  | sort window held pulling exhausted supply, hub =>
      match ready? window held pulling hub with
      | some (item, rest, popped) =>
          (.item item, sort window rest false exhausted supply, popped)
      | none =>
          if exhausted then (.done, sort window held false true supply, hub)
          else stepSort window held (supply.step world hub)

end Pipe

end RoutedGraph
