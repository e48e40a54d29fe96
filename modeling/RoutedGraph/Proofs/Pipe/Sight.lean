import Mathlib.Logic.Function.Basic
import RoutedGraph.Proofs.Pipe.Steps

/-!
# What a pipe sees

The stages of a pipe may read the world as they move.  If all of them see it
through one and the same view, a pull goes the same in all worlds that have
this view, and in all hubs that agree on the windows of the pipe.
-/

namespace RoutedGraph

namespace Pipe

variable {ω α β : Type} {view : ω → β} {first second : ω}

/-- The stages of a pipe see the world only through a view of it. -/
def Sees (view : ω → β) : Pipe ω α → Prop
  | source readings => ∀ reading ∈ readings, Function.FactorsThrough reading view
  | script _ _ => True
  | map change _ supply => Function.FactorsThrough change view ∧ supply.Sees view
  | select _ _ supply => supply.Sees view
  | sections expand _ _ _ _ supply => Function.FactorsThrough expand view ∧ supply.Sees view
  | sort _ _ _ _ supply => supply.Sees view

/-- Items that are given see nothing. -/
theorem sees_ofItems (view : ω → β) (items : List α) : (ofItems items : Pipe ω α).Sees view := by
  intro reading member _ _ _
  obtain ⟨item, -, rfl⟩ := List.mem_map.mp member
  rfl

/-- As a pipe moves, its stages see no more than before. -/
theorem Becomes.sees {pipe next : Pipe ω α} (becomes : Becomes pipe next)
    (sees : pipe.Sees view) : next.Sees view := by
  induction becomes with
  | source left => exact fun reading member => sees reading (left.subset member)
  | script events left => exact sees
  | map change seen later supplied ih => exact ⟨sees.1, ih sees.2⟩
  | select keeps seen later supplied ih => exact ih sees
  | sections expand events supplied ih => exact ⟨sees.1, ih sees.2⟩
  | sort window supplied ih => exact ih sees

theorem stepSections_of_sees {expand : ω → α → Except RouteError (List α)}
    (same : expand first = expand second) (events : EventsId) (index : Nat)
    (moved : Motion α × Pipe ω α × Hub α) :
    stepSections first expand events index moved = stepSections second expand events index moved := by
  obtain ⟨motion, supply, hub⟩ := moved
  cases motion with
  | item marker => simp only [stepSections, same]
  | skip => rfl
  | done => rfl
  | failed error => rfl

/-- A step goes the same in worlds with the same view. -/
theorem step_of_sees {pipe : Pipe ω α} (sees : pipe.Sees view) (same : view first = view second)
    (hub : Hub α) : pipe.step first hub = pipe.step second hub := by
  induction pipe generalizing hub with
  | source readings =>
      cases readings with
      | nil => rfl
      | cons reading rest => simp only [step, sees reading List.mem_cons_self same]
  | script events cues =>
      cases cues with
      | nil => rfl
      | cons cue rest => cases cue <;> rfl
  | map change seen supply ih => simp only [step, ih sees.2, sees.1 same]
  | select keeps seen supply ih => simp only [step, ih sees]
  | sections expand events current children index supply ih =>
      cases children with
      | cons child children => rfl
      | nil =>
          cases current <;>
            simp only [step, ih sees.2, stepSections_of_sees (sees.1 same)]
  | sort window held pulling exhausted supply ih => simp only [step, ih sees]

/-- A pull goes the same in worlds with the same view and hubs that agree on the windows of the
pipe. -/
theorem pull_congr {pipe next : Pipe ω α} {hub otherHub later : Hub α} {answer : Answer α}
    (sees : pipe.Sees view) (same : view first = view second)
    (agree : Hub.Agree pipe.windows hub otherHub)
    (pulled : pipe.pull first hub = (answer, next, later)) :
    next.Sees view ∧ ∃ otherLater, pipe.pull second otherHub = (answer, next, otherLater) ∧
      Hub.Agree next.windows later otherLater := by
  rw [pull_eq] at pulled
  rw [pull_eq]
  cases moved : pipe.step first hub with
  | mk motion rest =>
      obtain ⟨onward, final⟩ := rest
      have stillSees := (becomes_step first pipe hub).sees sees
      obtain ⟨otherFinal, otherMoved, stillAgree⟩ := step_congr agree moved
      rw [step_of_sees sees same] at otherMoved
      rw [moved] at pulled stillSees
      rw [otherMoved]
      cases motion with
      | skip => exact pull_congr stillSees same stillAgree pulled
      | item value =>
          obtain ⟨rfl, rfl, rfl⟩ := pulled
          exact ⟨stillSees, otherFinal, rfl, stillAgree⟩
      | done =>
          obtain ⟨rfl, rfl, rfl⟩ := pulled
          exact ⟨stillSees, otherFinal, rfl, stillAgree⟩
      | failed error =>
          obtain ⟨rfl, rfl, rfl⟩ := pulled
          exact ⟨stillSees, otherFinal, rfl, stillAgree⟩
termination_by pipe.rank
decreasing_by exact step_lowers moved (by simp)

end Pipe

end RoutedGraph
