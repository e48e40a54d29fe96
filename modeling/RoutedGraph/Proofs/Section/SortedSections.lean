import Mathlib.Data.Int.Order.Basic
import RoutedGraph.Proofs.Section.Layers
import RoutedGraph.Proofs.Section.Opening
import RoutedGraph.Proofs.Section.StableSort

/-!
# Sections are sorted one by one

A sorting stage behind sections brings the items of each section in the order of
their keys, section after section.  Inside the stage the items of a section wait
until the next section brings an item or the supply reaches its end, so that
they come between the start and the end of a later section.
-/

namespace RoutedGraph

variable {α : Type}

theorem Moment.outcome_items (items : List α) (rest : List (Moment α)) :
    outcome (items.map .item ++ rest) = (outcome rest).map (items ++ ·) := by
  induction items with
  | nil =>
      rw [List.map_nil, List.nil_append]
      cases outcome rest <;> rfl
  | cons item items ih =>
      rw [List.map_cons, List.cons_append, outcome, ih]
      cases outcome rest <;> rfl

theorem Moment.outcome_map_item (items : List α) :
    outcome (items.map .item) = .ok items := by
  simpa [outcome, Except.map] using outcome_items items []

theorem Moment.outcome_bracketed (events : EventsId) (number : Nat) (marker : α)
    (items : List α) (rest : List (Moment α)) :
    outcome (bracketed events number marker items ++ rest) = (outcome rest).map (items ++ ·) := by
  rw [bracketed, List.cons_append, outcome, List.append_assoc, outcome_items]
  rfl

namespace Window

variable {window : Window α} {hears : EventsId → Bool}

/-- Items that arrive wait for the end of the section. -/
theorem relay_items (idle : window.ready = []) (items : List α) (rest : List (Moment α)) :
    window.relay hears (items.map .item ++ rest) =
      { window with pending := window.pending ++ items }.relay hears rest := by
  induction items generalizing window with
  | nil => simp
  | cons item items ih =>
      have same : window.drained = window := by
        cases window
        cases idle
        rfl
      have waiting : (window.push item).ready = [] := idle
      rw [List.map_cons, List.cons_append, relay, idle, same, List.map_nil, List.nil_append,
        ih waiting]
      simp [push, idle]

/-- What is ready comes before the items that arrive. -/
theorem relay_some_items {items : List α} (filled : items ≠ []) (rest : List (Moment α)) :
    window.relay hears (items.map .item ++ rest) =
      window.ready.map .item ++
        { window with ready := [], pending := window.pending ++ items }.relay hears rest := by
  obtain ⟨first, others, rfl⟩ := List.exists_cons_of_ne_nil filled
  rw [List.map_cons, List.cons_append, relay]
  refine congrArg _ ((relay_items rfl others rest).trans ?_)
  simp [push, drained]

variable {events : EventsId} (listens : hears events = true) (quiet : window.pending = [])

include listens quiet

/-- A section without items only passes. -/
theorem relay_empty_section (number : Nat) (marker : α) (rest : List (Moment α)) :
    window.relay hears (Moment.bracketed events number marker [] ++ rest) =
      Moment.bracketed events number marker [] ++
        { window with index := number }.relay hears rest := by
  obtain ⟨index, pending, ready, sorter⟩ := window
  cases quiet
  simp [Moment.bracketed, relay, attend, listens, hear, start, finish]

/-- In a section with items, those come that have been ready before. -/
theorem relay_section (number : Nat) (marker : α) {items : List α} (filled : items ≠ [])
    (rest : List (Moment α)) :
    window.relay hears (Moment.bracketed events number marker items ++ rest) =
      Moment.bracketed events number marker window.ready ++
        { window with
          index := number
          ready := window.sorter.sort (some marker) number items }.relay hears rest := by
  obtain ⟨index, pending, ready, sorter⟩ := window
  cases quiet
  simp only [Moment.bracketed, List.cons_append, List.append_assoc, relay]
  rw [relay_some_items filled]
  simp [relay, attend, listens, hear, start, finish]

/-- Every section is sorted on its own. -/
theorem outcome_relay_sectioned (number : Nat) (sections : List (α × List α)) :
    Moment.outcome (window.relay hears (Moment.sectioned events number sections)) =
      .ok (window.ready ++ (sections.zipIdx number).flatMap fun ((marker, items), index) =>
        window.sorter.sort (some marker) index items) := by
  induction sections generalizing window number with
  | nil =>
      obtain ⟨index, pending, ready, sorter⟩ := window
      cases quiet
      rw [Moment.sectioned, relay, Moment.outcome_map_item]
      simp [finish]
  | cons head sections ih =>
      obtain ⟨marker, items⟩ := head
      rw [Moment.sectioned, List.zipIdx_cons, List.flatMap_cons]
      by_cases filled : items = []
      · subst filled
        have onward : ({ window with index := number } : Window α).pending = [] := quiet
        rw [relay_empty_section listens quiet, Moment.outcome_bracketed, ih onward]
        simp [Except.map]
      · have onward : ({ window with
            index := number
            ready := window.sorter.sort (some marker) number items } : Window α).pending = [] :=
          quiet
        rw [relay_section listens quiet _ _ filled, Moment.outcome_bracketed, ih onward]
        rfl

end Window

/-- The transcript of a stage that expands markers. -/
theorem Pipe.transcript_sections_markers {ω : Type} {world : ω}
    {expand : ω → α → Except RouteError (List α)} {markers : List α} {children : List (List α)}
    (expands : markers.mapM (expand world) = .ok children) (events : EventsId) (hub : Hub α) :
    (sections expand events none [] 0 (ofItems markers)).transcript world hub =
      Moment.sectioned events 0 (markers.zip children) := by
  have ignores : (ofItems markers).Ignores (ω := ω) hub events :=
    fun _ member => absurd member List.not_mem_nil
  rw [transcript_sections expand ignores, transcript_ofItems, Moment.expanded_markers expands]

/-- The number that an item stands for. -/
def Item.amount : Item → Int
  | value (.int number) => number.toInt
  | _ => 0

namespace Route

/-- Expand markers into sections, put layers on what they contain, and sort each section. -/
def sortedSections (markers : List Item) (type inner : ElementType)
    (expand : Stores → Item → Except RouteError (List Item)) (layers : List Layer)
    (sorter : Sorter Item) (hub : Hub Item) : Route × Hub Item :=
  let ((children, events), opened) := (ofItems markers type).sections inner expand hub
  (Layer.stack layers children).sortSections events sorter opened

variable {markers : List Item}
  {expand : Stores → Item → Except RouteError (List Item)} {children : List (List Item)}

/-- Each section is sorted on its own, by the keys of its items for its marker and its number. -/
theorem collect_sortedSections {κ : Type*} [LinearOrder κ] (world : World)
    (expands : markers.mapM (expand world.stores) = .ok children) {layers : List Layer}
    {contents : List (List Item)} (passes : Layer.passAll layers children = .ok contents)
    (type inner : ElementType) (key : Item → Option Item → Nat → κ) (traced : Bool) :
    let (route, hub) :=
      sortedSections markers type inner expand layers (Sorter.byKey key traced) world.toHub
    ((world.withHub hub).collect route).1 =
      .ok ((markers.zip contents).zipIdx.flatMap fun ((marker, items), number) =>
        stableSort (fun item => key item (some marker) number) items) := by
  let route := ((ofItems markers type).sections inner expand world.toHub).1.1
  let events := ((ofItems markers type).sections inner expand world.toHub).1.2
  let opened := ((ofItems markers type).sections inner expand world.toHub).2
  let sorter := Sorter.byKey key traced
  have sections : route.pipe.transcript world.stores opened =
      Moment.sectioned events 0 (markers.zip children) :=
    Pipe.transcript_sections_markers expands events opened
  have unused : ⟨opened.nextWindow⟩ ∉ (Layer.stack layers route).pipe.windows := by
    rw [Layer.windows_stack]
    exact List.not_mem_nil
  have listens : ((Layer.stack layers route).sortSections events sorter opened).2.hears
      ⟨opened.nextWindow⟩ events = true := by
    simp [hears_sortSections]
  refine (Pipe.collect_eq_outcome _ _ _).trans ?_
  refine (congrArg _ ((Layer.stack layers route).transcript_sortSections events sorter world.stores
    unused)).trans ?_
  rw [Layer.transcript_stack layers events markers passes route world.stores opened sections,
    Window.outcome_relay_sectioned listens rfl]
  rfl

/-- The second of three sections is empty, one item of the first one is not selected, and the third
one is turned around. -/
theorem collect_turnedSection :
    let one : Item := .value (.int 1)
    let two : Item := .value (.int 2)
    let three : Item := .value (.int 3)
    let expand : Stores → Item → Except RouteError (List Item) := fun _ marker =>
      .ok (if marker.amount = 2 then [] else [one, three, two])
    let layers : List Layer :=
      [.select fun seen _ => seen != 1,
        .map .scalar fun _ item => .ok (if item.amount = 1 then three else item)]
    let key : Item → Option Item → Nat → Int := fun item _ index =>
      if index = 2 then -item.amount else item.amount
    let (route, hub) := sortedSections [one, two, three] .path .scalar expand layers
      (Sorter.byKey key false) World.empty.toHub
    ((World.empty.withHub hub).collect route).1 = .ok [two, three, three, three, two] := by
  intro one two three expand layers key
  have expands : [one, two, three].mapM (expand World.empty.stores) =
      .ok [[one, three, two], [], [one, three, two]] := by rfl
  have passes : Layer.passAll layers [[one, three, two], [], [one, three, two]] =
      .ok [[three, two], [], [three, three, two]] := by rfl
  have ascending : stableSort (fun item => key item one 0) [three, two] = [two, three] := by
    simp [stableSort, List.mergeSort, List.MergeSort.Internal.splitInTwo, key, Item.amount, two,
      three]
  have nothing : stableSort (fun item => key item two 1) [] = [] := by simp [stableSort]
  have descending : stableSort (fun item => key item three 2) [three, three, two] =
      [three, three, two] := by
    simp [stableSort, List.mergeSort, List.MergeSort.Internal.splitInTwo, key, Item.amount, two,
      three]
  refine (collect_sortedSections World.empty expands passes .path .scalar key false).trans ?_
  simp only [List.zip_cons_cons, List.zip_nil_left, List.zipIdx_cons, List.zipIdx_nil, Nat.zero_add,
    Nat.reduceAdd, List.flatMap_cons, List.flatMap_nil, ascending, nothing, descending]
  rfl

end Route

end RoutedGraph
