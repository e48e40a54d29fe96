import RoutedGraph.Proofs.Pipe.Stages
import RoutedGraph.Route.Basic

/-!
# Stages between the sections and their sorting

Stages that change or select single items keep sections apart: every item stays
in the section it comes from, although the items are counted across sections.
-/

namespace RoutedGraph

/-- Of two computations in a row, both succeed. -/
theorem exists_of_bind_eq_ok {ε α β : Type} {first : Except ε α} {next : α → Except ε β}
    {result : β} (succeeds : (first >>= next) = .ok result) :
    ∃ value, first = .ok value ∧ next value = .ok result := by
  cases first with
  | error error => cases succeeds
  | ok value => exact ⟨value, rfl, succeeds⟩

namespace Moment

variable {α : Type}

/-- Sections of given markers and items, one after the other. -/
def sectioned (events : EventsId) : Nat → List (α × List α) → List (Moment α)
  | _, [] => []
  | number, (marker, items) :: rest =>
      bracketed events number marker items ++ sectioned events (number + 1) rest

/-- Markers that are expanded become sections. -/
theorem expanded_markers {expand : α → Except RouteError (List α)} {markers : List α}
    {children : List (List α)} (expands : markers.mapM expand = .ok children)
    (events : EventsId) (number : Nat) :
    expanded expand events number (markers.map .item) =
      sectioned events number (markers.zip children) := by
  induction markers generalizing children number with
  | nil => rfl
  | cons marker markers ih =>
      rw [List.mapM_cons] at expands
      obtain ⟨items, first, others⟩ := exists_of_bind_eq_ok expands
      obtain ⟨rest, onward, listed⟩ := exists_of_bind_eq_ok others
      cases listed
      simp only [List.map_cons, expanded, first, ih onward]
      rfl

end Moment

/-- A stage that answers each item on its own. -/
inductive Layer where
  | map (type : ElementType) (change : Nat → Item → Except RouteError Item)
  | select (keeps : Nat → Item → Bool)

namespace Layer

/-- Put a layer on a route. -/
def onto (route : Route) : Layer → Route
  | map type change => route.mapIndexed type change
  | select keeps => route.select keeps

/-- What becomes of an item, given how many came before it. -/
def answer : Layer → Nat → Item → Option (Except RouteError Item)
  | map _ change, seen, item => some (change seen item)
  | select keeps, seen, item => if keeps seen item then some (.ok item) else none

/-- What becomes of some items, given how many came before them. -/
def pass (layer : Layer) : Nat → List Item → Except RouteError (List Item)
  | _, [] => .ok []
  | seen, item :: rest =>
      match layer with
      | map _ change => do
          let changed ← change seen item
          let others ← layer.pass (seen + 1) rest
          return changed :: others
      | select keeps => do
          let others ← layer.pass (seen + 1) rest
          return if keeps seen item then item :: others else others

/-- What becomes of the items of sections, given how many came before them. -/
def passSections (layer : Layer) : Nat → List (List Item) → Except RouteError (List (List Item))
  | _, [] => .ok []
  | seen, items :: rest => do
      let passed ← layer.pass seen items
      let others ← layer.passSections (seen + items.length) rest
      return passed :: others

/-- Put layers on a route, the first one first. -/
def stack (layers : List Layer) (route : Route) : Route := layers.foldl onto route

/-- What becomes of the items of sections in all layers. -/
def passAll (layers : List Layer) (sections : List (List Item)) :
    Except RouteError (List (List Item)) :=
  layers.foldlM (fun sections layer => layer.passSections 0 sections) sections

theorem windows_onto (layer : Layer) (route : Route) :
    (layer.onto route).pipe.windows = route.pipe.windows := by
  cases layer <;> rfl

theorem windows_stack (layers : List Layer) (route : Route) :
    (stack layers route).pipe.windows = route.pipe.windows := by
  induction layers generalizing route with
  | nil => rfl
  | cons layer layers ih => exact (ih _).trans (layer.windows_onto route)

theorem transcript_onto (layer : Layer) (route : Route) (stores : Stores) (hub : Hub Item) :
    (layer.onto route).pipe.transcript stores hub =
      Moment.through layer.answer 0 (route.pipe.transcript stores hub) := by
  cases layer with
  | map type change => exact Pipe.transcript_map _ _ _ _ _
  | select keeps => exact Pipe.transcript_select _ _ _ _ _

/-- Items that are passed on come out one by one. -/
theorem through_items (layer : Layer) {seen : Nat} {items passed : List Item}
    (passes : layer.pass seen items = .ok passed) (rest : List (Moment Item)) :
    Moment.through layer.answer seen (items.map .item ++ rest) =
      passed.map .item ++ Moment.through layer.answer (seen + items.length) rest := by
  induction items generalizing seen passed with
  | nil =>
      cases passes
      rfl
  | cons item items ih =>
      have shifted : seen + (item :: items).length = seen + 1 + items.length := by
        rw [List.length_cons]
        omega
      rw [List.map_cons, List.cons_append, Moment.through, shifted]
      cases layer with
      | map type change =>
          obtain ⟨changed, first, onward⟩ := exists_of_bind_eq_ok passes
          obtain ⟨others, further, listed⟩ := exists_of_bind_eq_ok onward
          cases listed
          rw [ih further, answer, first]
          rfl
      | select keeps =>
          obtain ⟨others, further, listed⟩ := exists_of_bind_eq_ok passes
          cases listed
          rw [ih further, answer]
          cases keeps seen item <;> rfl

/-- Sections stay apart. -/
theorem through_sectioned (layer : Layer) (events : EventsId) {seen : Nat} (number : Nat)
    (markers : List Item) {contents passed : List (List Item)}
    (passes : layer.passSections seen contents = .ok passed) :
    Moment.through layer.answer seen (Moment.sectioned events number (markers.zip contents)) =
      Moment.sectioned events number (markers.zip passed) := by
  induction contents generalizing seen number markers passed with
  | nil =>
      cases passes
      rw [List.zip_nil_right]
      rfl
  | cons items contents ih =>
      obtain ⟨head, first, onward⟩ := exists_of_bind_eq_ok passes
      obtain ⟨others, further, listed⟩ := exists_of_bind_eq_ok onward
      cases listed
      cases markers with
      | nil => rfl
      | cons marker markers =>
          simp only [List.zip_cons_cons, Moment.sectioned, Moment.bracketed, List.cons_append,
            List.append_assoc, List.nil_append, Moment.through, layer.through_items first,
            ih _ _ further]

/-- The transcript of a stack of layers on sections. -/
theorem transcript_stack (layers : List Layer) (events : EventsId) (markers : List Item)
    {children contents : List (List Item)} (passes : passAll layers children = .ok contents)
    (route : Route) (stores : Stores) (hub : Hub Item)
    (sections : route.pipe.transcript stores hub =
      Moment.sectioned events 0 (markers.zip children)) :
    (stack layers route).pipe.transcript stores hub =
      Moment.sectioned events 0 (markers.zip contents) := by
  induction layers generalizing children route with
  | nil =>
      cases passes
      exact sections
  | cons layer layers ih =>
      obtain ⟨passed, first, further⟩ := exists_of_bind_eq_ok passes
      refine ih further (layer.onto route) ?_
      rw [transcript_onto, sections, layer.through_sectioned events 0 markers first]

end Layer

end RoutedGraph
