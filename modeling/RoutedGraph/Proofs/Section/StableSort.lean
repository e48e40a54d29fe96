import Mathlib.Order.Lattice
import RoutedGraph.Section.Hub

/-!
# Stable sorting by keys

Items in the order of their keys, where items with one key keep the order they
came in, are determined by this.
-/

namespace RoutedGraph

section StableSort

variable {α κ : Type*} [LinearOrder κ]

/-- Some items in the order of their keys, where items with one key keep their order. -/
structure StablySorted (key : α → κ) (items sorted : List α) : Prop where
  ordered : sorted.Pairwise fun first second => key first ≤ key second
  kept : ∀ value, sorted.filter (key · = value) = items.filter (key · = value)

def stableSort (key : α → κ) (items : List α) : List α :=
  items.mergeSort fun first second => decide (key first ≤ key second)

theorem stablySorted_stableSort (key : α → κ) (items : List α) :
    StablySorted key items (stableSort key items) := by
  have trans (first second third : α) (lower : decide (key first ≤ key second) = true)
      (higher : decide (key second ≤ key third) = true) :
      decide (key first ≤ key third) = true :=
    decide_eq_true (le_trans (of_decide_eq_true lower) (of_decide_eq_true higher))
  have total (first second : α) :
      (decide (key first ≤ key second) || decide (key second ≤ key first)) = true := by
    simpa using le_total (key first) (key second)
  refine ⟨?_, fun value => ?_⟩
  · exact (List.pairwise_mergeSort trans total items).imp of_decide_eq_true
  · -- The items with one key are in order already, so sorting keeps them in a row.
    have even : (items.filter (key · = value)).Pairwise
        fun first second => decide (key first ≤ key second) = true := by
      refine List.pairwise_of_forall_mem_list fun first former second latter => ?_
      simp only [List.mem_filter, decide_eq_true_eq] at former latter
      exact decide_eq_true (le_of_eq (former.2.trans latter.2.symm))
    have among : List.Sublist (items.filter (key · = value))
        ((stableSort key items).filter (key · = value)) := by
      simpa [stableSort] using (List.sublist_mergeSort trans total even List.filter_sublist).filter
        (key · = value)
    refine (among.eq_of_length ?_).symm
    exact ((List.mergeSort_perm items _).filter _).length_eq.symm

/-- The first of some ordered items has the lowest key. -/
theorem key_le_of_mem {key : α → κ} {head item : α} {rest : List α}
    (ordered : (head :: rest).Pairwise fun first second => key first ≤ key second)
    (member : item ∈ head :: rest) : key head ≤ key item := by
  rcases List.mem_cons.mp member with rfl | later
  · exact le_refl _
  · exact List.rel_of_pairwise_cons ordered later

/-- Ordered items are the same if they are the same for each key. -/
theorem eq_of_filter_eq {key : α → κ} {sorted others : List α}
    (former : sorted.Pairwise fun first second => key first ≤ key second)
    (latter : others.Pairwise fun first second => key first ≤ key second)
    (same : ∀ value, sorted.filter (key · = value) = others.filter (key · = value)) :
    sorted = others := by
  induction sorted generalizing others with
  | nil =>
      cases others with
      | nil => rfl
      | cons item rest => simpa using same (key item)
  | cons item rest ih =>
      cases others with
      | nil => simpa using same (key item)
      | cons other remaining =>
          have inOthers : item ∈ (other :: remaining).filter (key · = key item) := by
            rw [← same]
            simp
          have inSorted : other ∈ (item :: rest).filter (key · = key other) := by
            rw [same]
            simp
          have equal : key item = key other :=
            le_antisymm (key_le_of_mem former (List.mem_filter.mp inSorted).1)
              (key_le_of_mem latter (List.mem_filter.mp inOthers).1)
          have heads := same (key item)
          simp only [List.filter_cons, equal, decide_true, if_true, List.cons.injEq] at heads
          obtain ⟨rfl, -⟩ := heads
          refine congrArg _ (ih former.of_cons latter.of_cons fun value => ?_)
          have here := same value
          by_cases own : key item = value
          · simpa [own] using here
          · simpa [own] using here

/-- Keys leave only one stable order. -/
theorem StablySorted.eq_stableSort {key : α → κ} {items sorted : List α}
    (stable : StablySorted key items sorted) : sorted = stableSort key items :=
  have expected := stablySorted_stableSort key items
  eq_of_filter_eq stable.ordered expected.ordered fun value =>
    (stable.kept value).trans (expected.kept value).symm

end StableSort

/-- Compare items by keys, which may depend on the marker and the index of the section. -/
def Sorter.byKey {α : Type} {κ : Type*} [LinearOrder κ] (key : α → Option α → Nat → κ)
    (traced : Bool) : Sorter α where
  inOrder marker index first second := decide (key first marker index ≤ key second marker index)
  traced := traced

end RoutedGraph
