import RoutedGraph.Proofs.Section.SortedSections

/-!
# Two sorting stages on the same sections

Of two sorting stages that listen to the same events, the second one hears the
end of a section before it gets the items of that section: they have waited in
the first one, and come in the next section that contains items.  So the second
stage sorts the same groups of items, but by the marker and the number of the
next section with items; the last group it sorts by no marker, when its supply
has reached its end.
-/

namespace RoutedGraph

variable {α : Type}

/-- What two sorting stages bring, if the last section to start has had number `last` and the items
`waiting` are ready in the first stage. -/
def deferred (first second : Sorter α) : Nat → List α → Nat → List (α × List α) → List α
  | last, waiting, _, [] => second.sort none last waiting
  | _, waiting, number, (marker, items) :: rest =>
      if items = [] then deferred first second number waiting (number + 1) rest
      else
        second.sort (some marker) number waiting ++
          deferred first second number (first.sort (some marker) number items) (number + 1) rest

namespace Window

variable {first second : Window α} {hears others : EventsId → Bool} {events : EventsId}

/-- Items that arrive outside of all sections are sorted when the supply has reached its end. -/
theorem outcome_relay_items (quiet : second.pending = []) (items : List α) :
    Moment.outcome (second.relay others (items.map .item)) =
      .ok (second.ready ++ second.sorter.sort none second.index items) := by
  obtain ⟨index, pending, ready, sorter⟩ := second
  cases quiet
  by_cases filled : items = []
  · subst filled
    rw [List.map_nil, relay, Moment.outcome_map_item]
    simp [finish]
  · rw [← List.append_nil (List.map _ _), relay_some_items filled, relay,
      Moment.outcome_items, Moment.outcome_map_item]
    simp [finish, Except.map]

/-- What two sorting stages bring that listen to the same events. -/
theorem outcome_relay_relay (listens : hears events = true) (listensToo : others events = true)
    (quiet : first.pending = []) (quietToo : second.pending = []) (number : Nat)
    (sections : List (α × List α)) :
    Moment.outcome
        (second.relay others (first.relay hears (Moment.sectioned events number sections))) =
      .ok (second.ready ++
        deferred first.sorter second.sorter second.index first.ready number sections) := by
  induction sections generalizing first second number with
  | nil =>
      have kept : (first.finish none first.index).ready = first.ready := by
        simp [finish, quiet]
      rw [Moment.sectioned, relay, kept, outcome_relay_items quietToo, deferred]
  | cons head sections ih =>
      obtain ⟨marker, items⟩ := head
      have moved : ({ second with index := number } : Window α).pending = [] := quietToo
      rw [Moment.sectioned, deferred]
      by_cases filled : items = []
      · have onward : ({ first with index := number } : Window α).pending = [] := quiet
        subst filled
        rw [relay_empty_section listens quiet, relay_empty_section listensToo quietToo,
          Moment.outcome_bracketed, ih onward moved]
        simp [Except.map]
      · have onward : ({ first with
            index := number
            ready := first.sorter.sort (some marker) number items } : Window α).pending = [] :=
          quiet
        rw [relay_section listens quiet _ _ filled, if_neg filled]
        by_cases waiting : first.ready = []
        · rw [waiting, relay_empty_section listensToo quietToo, Moment.outcome_bracketed,
            ih onward moved]
          simp [Except.map]
        · -- What the first stage has ready comes between the borders of this section, so the second
          -- stage sorts it by this marker.
          have arrived : ({ second with
              index := number
              ready := second.sorter.sort (some marker) number first.ready } :
                Window α).pending = [] := quietToo
          rw [relay_section listensToo quietToo _ _ waiting, Moment.outcome_bracketed,
            ih onward arrived]
          rfl

end Window

/-- The sections that contain items, with their numbers. -/
def filled (number : Nat) (sections : List (α × List α)) : List ((α × List α) × Nat) :=
  (sections.zipIdx number).filter fun entry => !entry.1.2.isEmpty

/-- What the first of two stages makes of a section. -/
def Sorter.sortSection (sorter : Sorter α) : (α × List α) × Nat → List α
  | ((marker, items), number) => sorter.sort (some marker) number items

/-- The marker and the number of a section. -/
def heading : (α × List α) × Nat → Option α × Nat
  | ((marker, _), number) => (some marker, number)

/-- Each group of items comes in the next section that contains items, and the last group after all
sections. -/
theorem deferred_eq (first second : Sorter α) (last : Nat) (waiting : List α) (number : Nat)
    (sections : List (α × List α)) :
    deferred first second last waiting number sections =
      (List.zipWith (fun items (marker, index) => second.sort marker index items)
        (waiting :: (filled number sections).map first.sortSection)
        ((filled number sections).map heading ++
          [(none, if sections = [] then last else number + sections.length - 1)])).flatten := by
  induction sections generalizing last waiting number with
  | nil => simp [deferred, filled]
  | cons head sections ih =>
      obtain ⟨marker, items⟩ := head
      have ends : (if sections = [] then number else number + 1 + sections.length - 1) =
          number + (sections.length + 1) - 1 := by
        cases sections with
        | nil => simp
        | cons _ _ => simp; omega
      rw [deferred]
      by_cases empty : items = []
      · rw [if_pos empty, ih, ends]
        simp [filled, empty]
      · rw [if_neg empty, ih, ends]
        simp [filled, empty, Sorter.sortSection, heading]

theorem deferred_fresh (first second : Sorter α) (sections : List (α × List α)) :
    deferred first second 0 [] 0 sections =
      (List.zipWith
        (fun entry (later, index) => second.sort later index (first.sortSection entry))
        (filled 0 sections)
        (((filled 0 sections).map heading).tail ++ [(none, sections.length - 1)])).flatten := by
  have last : (if sections = [] then 0 else 0 + sections.length - 1) = sections.length - 1 := by
    cases sections <;> simp
  rw [deferred_eq, last]
  generalize filled 0 sections = entries
  cases entries with
  | nil => simp
  | cons entry rest =>
      -- Nothing waits before the first section with items, so its heading sorts nothing.
      have nothing : second.sort (heading entry).1 (heading entry).2 [] = [] :=
        second.sort_nil _ _
      simp only [List.map_cons, List.cons_append, List.zipWith_cons_cons, List.flatten_cons,
        List.tail_cons, nothing, List.nil_append]
      rw [← List.map_cons, List.zipWith_map_left]

namespace Route

/-- Expand markers into sections, and put two stages on them that sort each section. -/
def stackedSorts (markers : List Item) (type inner : ElementType)
    (expand : Stores → Item → Except RouteError (List Item)) (first second : Sorter Item)
    (hub : Hub Item) : Route × Hub Item :=
  let ((children, events), opened) := (ofItems markers type).sections inner expand hub
  let (once, listening) := children.sortSections events first opened
  once.sortSections events second listening

/-- The first of two sorting stages sorts each section by the keys of its items for the marker and
the number of the section.  The second one sorts the result for the marker and the number of the
next section that contains items, and for no marker and the last number if there is none. -/
theorem collect_stackedSorts {κ ι : Type*} [LinearOrder κ] [LinearOrder ι] (world : World)
    {markers : List Item} {expand : Stores → Item → Except RouteError (List Item)}
    {children : List (List Item)} (expands : markers.mapM (expand world.stores) = .ok children)
    (type inner : ElementType) (first : Item → Option Item → Nat → κ)
    (second : Item → Option Item → Nat → ι) (traced tracedToo : Bool) :
    let (route, hub) := stackedSorts markers type inner expand (Sorter.byKey first traced)
      (Sorter.byKey second tracedToo) world.toHub
    let sections := filled 0 (markers.zip children)
    ((world.withHub hub).collect route).1 =
      .ok (List.zipWith
        (fun ((marker, items), number) (later, index) =>
          stableSort (fun item => second item later index)
            (stableSort (fun item => first item (some marker) number) items))
        sections
        ((sections.map heading).tail ++ [(none, (markers.zip children).length - 1)])).flatten := by
  let route := ((ofItems markers type).sections inner expand world.toHub).1.1
  let events := ((ofItems markers type).sections inner expand world.toHub).1.2
  let opened := ((ofItems markers type).sections inner expand world.toHub).2
  let once := (route.sortSections events (Sorter.byKey first traced) opened).1
  let listening := (route.sortSections events (Sorter.byKey first traced) opened).2
  have sections : route.pipe.transcript world.stores opened =
      Moment.sectioned events 0 (markers.zip children) :=
    Pipe.transcript_sections_markers expands events opened
  have unused : ⟨opened.nextWindow⟩ ∉ route.pipe.windows := List.not_mem_nil
  have unusedToo : ⟨listening.nextWindow⟩ ∉ once.pipe.windows := by
    intro member
    have same : opened.nextWindow + 1 = opened.nextWindow :=
      congrArg WindowId.raw (List.mem_singleton.mp member)
    exact Nat.succ_ne_self _ same
  have listens : listening.hears ⟨opened.nextWindow⟩ events = true := by
    simp [listening, hears_sortSections]
  have listensToo : (once.sortSections events (Sorter.byKey second tracedToo) listening).2.hears
      ⟨listening.nextWindow⟩ events = true := by
    simp [hears_sortSections]
  refine (Pipe.collect_eq_outcome _ _ _).trans ?_
  refine (congrArg _ (once.transcript_sortSections events (Sorter.byKey second tracedToo)
    world.stores unusedToo)).trans ?_
  rw [route.transcript_sortSections events (Sorter.byKey first traced) world.stores unused,
    sections, Window.outcome_relay_relay listens listensToo rfl rfl]
  exact congrArg _ (deferred_fresh _ _ _)

/-- The second stage turns sections of odd number around, and so the items of section zero: they
reach it in section one. -/
theorem collect_turnedBefore :
    let one : Item := .value (.int 1)
    let two : Item := .value (.int 2)
    let three : Item := .value (.int 3)
    let seven : Item := .value (.int 7)
    let nine : Item := .value (.int 9)
    let expand : Stores → Item → Except RouteError (List Item) := fun _ marker =>
      .ok (if marker.amount = 1 then [three, one, two] else [nine, seven])
    let first : Item → Option Item → Nat → Int := fun item _ _ => item.amount
    let second : Item → Option Item → Nat → Int := fun item _ index =>
      if index % 2 = 1 then -item.amount else item.amount
    let (route, hub) := stackedSorts [one, two] .path .scalar expand (Sorter.byKey first false)
      (Sorter.byKey second false) World.empty.toHub
    ((World.empty.withHub hub).collect route).1 = .ok [three, two, one, nine, seven] := by
  intro one two three seven nine expand first second
  have expands : [one, two].mapM (expand World.empty.stores) =
      .ok [[three, one, two], [nine, seven]] := by rfl
  have ascending : stableSort (fun item => first item one 0) [three, one, two] =
      [one, two, three] := by
    simp [stableSort, List.mergeSort, List.MergeSort.Internal.splitInTwo, first, Item.amount, one,
      two, three]
  have descending : stableSort (fun item => second item two 1) [one, two, three] =
      [three, two, one] := by
    simp [stableSort, List.mergeSort, List.MergeSort.Internal.splitInTwo, second, Item.amount,
      one, two, three]
  have ascendingToo : stableSort (fun item => first item two 1) [nine, seven] = [seven, nine] := by
    simp [stableSort, List.mergeSort, List.MergeSort.Internal.splitInTwo, first, Item.amount,
      seven, nine]
  have descendingToo : stableSort (fun item => second item none 1) [seven, nine] =
      [nine, seven] := by
    simp [stableSort, List.mergeSort, List.MergeSort.Internal.splitInTwo, second, Item.amount,
      seven, nine]
  have sections : filled 0 [(one, [three, one, two]), (two, [nine, seven])] =
      [((one, [three, one, two]), 0), ((two, [nine, seven]), 1)] := rfl
  refine (collect_stackedSorts World.empty expands .path .scalar first second false false).trans ?_
  simp only [sections, heading, List.map_cons, List.map_nil, List.tail_cons, List.cons_append,
    List.nil_append, List.zipWith_cons_cons, List.zipWith_nil_left, List.zip_cons_cons,
    List.zip_nil_left, List.length_cons, List.length_nil, Nat.reduceAdd, Nat.reduceSub,
    List.flatten_cons, List.flatten_nil, ascending, descending, ascendingToo, descendingToo]

end Route

end RoutedGraph
