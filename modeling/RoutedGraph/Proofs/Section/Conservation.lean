import Mathlib.Algebra.Order.Group.Multiset
import Mathlib.Tactic.Abel
import RoutedGraph.Proofs.Section.Opening

/-!
# What a sorting stage loses

A sorting stage brings every item of its supply once, except those that wait in
its window when a section starts: they came after the last section had ended, or
in a section that the start cuts off.
-/

namespace RoutedGraph

variable {α : Type}

/-- The items that are given up, as the moments of the supply tell: those that have arrived since a
section started or ended, when the next thing that is announced is the start of a section. -/
def Moment.dropped (events : EventsId) : List α → List (Moment α) → List α
  | _, [] => []
  | waiting, .announced call :: rest =>
      if events = call.events then
        match call.border with
        | .start => waiting ++ dropped events [] rest
        | .finish => dropped events [] rest
      else dropped events waiting rest
  | waiting, .item value :: rest => dropped events (waiting ++ [value]) rest
  | waiting, .failed _ :: rest => dropped events waiting rest

namespace Window

theorem coe_ready_finish (window : Window α) (marker : Option α) (index : Nat) :
    (↑(window.finish marker index).ready : Multiset α) = ↑window.ready + ↑window.pending := by
  rw [finish, ← Multiset.coe_add]
  exact congrArg _ (Multiset.coe_eq_coe.mpr (window.sorter.sort_perm marker index window.pending))

/-- What is in the window and what arrives is passed on or given up. -/
theorem relay_conserves {hears : EventsId → Bool} {events : EventsId}
    (only : ∀ other, hears other = decide (events = other)) (window : Window α)
    (moments : List (Moment α)) :
    (↑(Moment.values (window.relay hears moments)) +
        ↑(Moment.dropped events window.pending moments) : Multiset α) =
      ↑window.ready + ↑window.pending + ↑(Moment.values moments) := by
  induction moments generalizing window with
  | nil => simp [relay, Moment.dropped, coe_ready_finish]
  | cons moment rest ih =>
      cases moment with
      | announced call =>
          obtain ⟨other, border, marker, index⟩ := call
          rw [relay, Moment.values_announced, Moment.values_announced, Moment.dropped]
          by_cases heard : events = other
          · have onward := ih (window.attend hears ⟨other, border, marker, index⟩)
            cases border with
            | start =>
                have started : window.attend hears ⟨other, .start, marker, index⟩ =
                    window.start index := by simp [attend, only, heard, hear]
                rw [started] at onward ⊢
                simp only [if_pos heard, ← Multiset.coe_add]
                rw [add_left_comm]
                refine (congrArg _ onward).trans ?_
                simp only [start, Multiset.coe_nil]
                abel
            | finish =>
                have ended : window.attend hears ⟨other, .finish, marker, index⟩ =
                    window.finish (some marker) index := by simp [attend, only, heard, hear]
                rw [ended, coe_ready_finish] at onward
                rw [ended]
                simp only [if_pos heard]
                refine onward.trans ?_
                simp only [finish, Multiset.coe_nil]
                abel
          · have unheard : window.attend hears ⟨other, border, marker, index⟩ = window := by
              simp [attend, only, heard]
            rw [unheard, if_neg heard]
            exact ih window
      | item value =>
          have onward := ih (window.drained.push value)
          rw [relay, Moment.values_append, Moment.values_map_item, Moment.values_item,
            ← Multiset.coe_add, add_assoc]
          refine (congrArg _ onward).trans ?_
          simp only [drained, push, ← Multiset.coe_add, ← Multiset.cons_coe, Multiset.coe_nil,
            ← Multiset.singleton_add]
          abel
      | failed error =>
          have onward := ih window.drained
          rw [relay, Moment.values_failed, Moment.values_append, Moment.values_map_item,
            Moment.values_failed, ← Multiset.coe_add, add_assoc]
          refine (congrArg _ onward).trans ?_
          simp only [drained, Multiset.coe_nil]
          abel

end Window

namespace Route

/-- Sorting by sections loses nothing but what waits when a section starts, and repeats nothing. -/
theorem sortSections_conserves (route : Route) (events : EventsId) (sorter : Sorter Item)
    (stores : Stores) {hub : Hub Item} (numbers : hub.Numbers route.pipe.windows) :
    (↑((route.sortSections events sorter hub).1.pipe.brought stores
          (route.sortSections events sorter hub).2) +
        ↑(Moment.dropped events [] (route.pipe.transcript stores hub)) : Multiset Item) =
      ↑(route.pipe.brought stores hub) := by
  rw [Pipe.brought_eq_values, Pipe.brought_eq_values,
    route.transcript_sortSections events sorter stores numbers.unused]
  refine (Window.relay_conserves (fun other => ?_) (Window.fresh sorter) _).trans ?_
  · rw [hears_sortSections, numbers.silent]
    simp
  · simp [Window.fresh]

/-- A script with one item before the first section, and the same item again in it. -/
def early : Route :=
  ofPipe
    (.script ⟨0⟩
      [.item (.value (.int 1)), .announce .start (.value .null) 0, .item (.value (.int 1)),
        .announce .finish (.value .null) 0])
    .scalar

/-- The events of the script have been opened. -/
def prepared : Hub Item := Hub.empty.openEvents.2

theorem numbers_prepared : prepared.Numbers early.pipe.windows :=
  (Reached.openEvents .empty).numbers

theorem transcript_early (stores : Stores) (hub : Hub Item) :
    early.pipe.transcript stores hub =
      [.item (.value (.int 1)), .announced ⟨⟨0⟩, .start, .value .null, 0⟩,
        .item (.value (.int 1)), .announced ⟨⟨0⟩, .finish, .value .null, 0⟩] := by
  rw [early, ofPipe, Pipe.transcript_script]
  rfl

/-- The item before the section is given up. -/
theorem sortSections_early :
    (↑((early.sortSections ⟨0⟩ default prepared).1.pipe.brought Dict.empty
        (early.sortSections ⟨0⟩ default prepared).2) + {.value (.int 1)} : Multiset Item) =
      {.value (.int 1), .value (.int 1)} := by
  have conserved := early.sortSections_conserves ⟨0⟩ default Dict.empty numbers_prepared
  rw [Pipe.brought_eq_values Dict.empty early.pipe, transcript_early] at conserved
  exact conserved

/-- The stage does not bring everything that its supply brings. -/
theorem sortSections_loses_early :
    (↑((early.sortSections ⟨0⟩ default prepared).1.pipe.brought Dict.empty
        (early.sortSections ⟨0⟩ default prepared).2) : Multiset Item) ≠
      ↑(early.pipe.brought Dict.empty prepared) := by
  have heard : (early.sortSections ⟨0⟩ default prepared).2.hears ⟨prepared.nextWindow⟩ ⟨0⟩ =
      true := by simp [hears_sortSections]
  rw [Pipe.brought_eq_values, Pipe.brought_eq_values,
    early.transcript_sortSections ⟨0⟩ default Dict.empty numbers_prepared.unused, transcript_early]
  intro same
  have counted := congrArg Multiset.card same
  simp [Window.relay, Window.attend, heard, Window.hear, Window.start, Window.finish, Window.push,
    Window.drained, Window.fresh, Sorter.sort] at counted

end Route

end RoutedGraph
