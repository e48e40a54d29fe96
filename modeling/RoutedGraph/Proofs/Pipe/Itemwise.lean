import RoutedGraph.Pipe.Pull

/-!
# Pipes that answer item by item

A stack of changing and selecting stages over a list of items answers every
item on its own, with a value, with a failure or not at all.  Moving such a
pipe uses up exactly one item of the list, so that a pull uses up the items
that are not answered and the first one that is, and leaves the others.
-/

namespace RoutedGraph

variable {ω α : Type}

def Answer.ofExcept : Except RouteError α → Answer α
  | .ok value => .item value
  | .error error => .failed error

/-- What becomes of an item in two stages.  The second one sees what the first one passes on. -/
def answerBoth (first second : α → Option (Except RouteError α)) (item : α) :
    Option (Except RouteError α) :=
  match first item with
  | none => none
  | some (.ok value) => second value
  | some (.error error) => some (.error error)

theorem answerBoth_pass (answer : α → Option (Except RouteError α)) :
    (answerBoth answer fun item => some (.ok item)) = answer := by
  funext item
  unfold answerBoth
  split <;> simp_all

theorem pass_answerBoth (answer : α → Option (Except RouteError α)) :
    answerBoth (fun item => some (.ok item)) answer = answer := rfl

theorem answerBoth_assoc (first second third : α → Option (Except RouteError α)) :
    answerBoth (answerBoth first second) third = answerBoth first (answerBoth second third) := by
  funext item
  unfold answerBoth
  cases first item with
  | none => rfl
  | some result => cases result <;> rfl

/-- The items that come after the first failing one. -/
def afterFailure (answer : α → Option (Except RouteError α)) : List α → List α
  | [] => []
  | item :: rest =>
      match answer item with
      | some (.error _) => rest
      | _ => afterFailure answer rest

theorem afterFailure_append {answer : α → Option (Except RouteError α)} {before rest : List α}
    (sound : ∀ item ∈ before, ∀ error, answer item ≠ some (.error error)) :
    afterFailure answer (before ++ rest) = afterFailure answer rest := by
  induction before with
  | nil => rfl
  | cons item before ih =>
      have later := ih fun other member => sound other (List.mem_cons_of_mem _ member)
      rw [List.cons_append, afterFailure, later]
      split
      · next error failed => exact absurd failed (sound item List.mem_cons_self error)
      · rfl

theorem afterFailure_of_failed {answer : α → Option (Except RouteError α)} {before after : List α}
    {item : α} {error : RouteError}
    (sound : ∀ item ∈ before, ∀ error, answer item ≠ some (.error error))
    (failed : answer item = some (.error error)) :
    afterFailure answer (before ++ item :: after) = after := by
  rw [afterFailure_append sound, afterFailure, failed]

/-- The first failure is the outcome, whatever comes after it. -/
theorem outcome_of_failed {answer : α → Option (Except RouteError α)} {before after : List α}
    {item : α} {error : RouteError}
    (sound : ∀ item ∈ before, ∀ error, answer item ≠ some (.error error))
    (failed : answer item = some (.error error)) :
    ((before ++ item :: after).filterMap answer).mapM id = .error error := by
  induction before with
  | nil =>
      rw [List.nil_append, List.filterMap_cons_some failed, List.mapM_cons]
      rfl
  | cons first before ih =>
      have later := ih fun other member => sound other (List.mem_cons_of_mem _ member)
      cases answered : answer first with
      | none => rwa [List.cons_append, List.filterMap_cons_none answered]
      | some result =>
          cases result with
          | ok value =>
              rw [List.cons_append, List.filterMap_cons_some answered, List.mapM_cons, later]
              rfl
          | error other => exact absurd answered (sound first List.mem_cons_self other)

namespace Pipe

/-- What a pipe has not read yet of its source. -/
def unread : Pipe ω α → List (ω → Except RouteError α)
  | source readings => readings
  | script _ _ => []
  | map _ _ supply => supply.unread
  | select _ _ supply => supply.unread
  | sections _ _ _ _ _ supply => supply.unread
  | sort _ _ _ _ supply => supply.unread

/-- Collect, and keep what is left of the pipe. -/
def drain (world : ω) (pipe : Pipe ω α) (hub : Hub α) :
    Except RouteError (List α) × Pipe ω α × Hub α :=
  match _pulled : pipe.pull world hub with
  | (.item value, next, later) =>
      let (rest, left, final) := next.drain world later
      (rest.map (value :: ·), left, final)
  | (.done, next, later) => (.ok [], next, later)
  | (.failed error, next, later) => (.error error, next, later)
termination_by pipe.rank
decreasing_by exact pull_lowers _pulled (by simp)

theorem collect_eq_drain (world : ω) (pipe : Pipe ω α) (hub : Hub α) :
    pipe.collect world hub = ((pipe.drain world hub).1, (pipe.drain world hub).2.2) := by
  fun_induction drain world pipe hub with
  | case1 pipe hub value next later pulled rest left final drained ih =>
      rw [drained] at ih
      rw [collect_eq]
      simp only [pulled, ih]
  | case2 pipe hub next later pulled =>
      rw [collect_eq]
      simp only [pulled]
  | case3 pipe hub error next later pulled =>
      rw [collect_eq]
      simp only [pulled]

end Pipe

/-- A pipe that has some items to come and answers each of them on its own. -/
inductive Itemwise (world : ω) :
    (α → Option (Except RouteError α)) → List α → Pipe ω α → Prop where
  | ofItems (items : List α) :
      Itemwise world (fun item => some (.ok item)) items (.ofItems items)
  | map {answer : α → Option (Except RouteError α)} {items : List α} {supply : Pipe ω α}
      (change : α → Except RouteError α) (seen : Nat)
      (supplied : Itemwise world answer items supply) :
      Itemwise world (answerBoth answer fun value => some (change value)) items
        (.map (fun _ _ => change) seen supply)
  | select {answer : α → Option (Except RouteError α)} {items : List α} {supply : Pipe ω α}
      (keeps : α → Bool) (seen : Nat)
      (supplied : Itemwise world answer items supply) :
      Itemwise world
        (answerBoth answer fun value => if keeps value then some (.ok value) else none) items
        (.select (fun _ => keeps) seen supply)

namespace Itemwise

variable {world : ω} {answer : α → Option (Except RouteError α)} {item : α} {items rest : List α}
  {pipe : Pipe ω α}

theorem unread (itemwise : Itemwise world answer items pipe) :
    pipe.unread = items.map fun item _ => .ok item := by
  induction itemwise with
  | ofItems items => rfl
  | map change seen supplied ih => exact ih
  | select keeps seen supplied ih => exact ih

/-- A pipe without items is at its end, and stays there. -/
theorem step_nil (itemwise : Itemwise world answer [] pipe) (hub : Hub α) :
    ∃ next, pipe.step world hub = (.done, next, hub) ∧ Itemwise world answer [] next := by
  generalize empty : ([] : List α) = items at itemwise
  induction itemwise with
  | ofItems items =>
      subst empty
      exact ⟨.source [], rfl, .ofItems []⟩
  | map change seen supplied ih =>
      obtain ⟨next, moved, left⟩ := ih empty
      exact ⟨.map (fun _ _ => change) seen next, by simp only [Pipe.step, moved],
        left.map change seen⟩
  | select keeps seen supplied ih =>
      obtain ⟨next, moved, left⟩ := ih empty
      exact ⟨.select (fun _ => keeps) seen next, by simp only [Pipe.step, moved],
        left.select keeps seen⟩

/-- A step answers the first item, and leaves the others. -/
theorem step_cons (itemwise : Itemwise world answer (item :: rest) pipe) (hub : Hub α) :
    ∃ next, pipe.step world hub = ((answer item).elim .skip Motion.ofExcept, next, hub) ∧
      Itemwise world answer rest next := by
  generalize listed : item :: rest = items at itemwise
  induction itemwise with
  | ofItems items =>
      subst listed
      exact ⟨.ofItems rest, rfl, .ofItems rest⟩
  | @map answer items supply change seen supplied ih =>
      obtain ⟨next, moved, left⟩ := ih listed
      cases answered : answer item with
      | none =>
          refine ⟨.map (fun _ _ => change) seen next, ?_, left.map change seen⟩
          simp [Pipe.step, moved, answerBoth, answered]
      | some result =>
          cases result with
          | ok value =>
              refine ⟨.map (fun _ _ => change) (seen + 1) next, ?_, left.map change (seen + 1)⟩
              simp [Pipe.step, moved, answerBoth, answered, Motion.ofExcept]
          | error error =>
              refine ⟨.map (fun _ _ => change) seen next, ?_, left.map change seen⟩
              simp [Pipe.step, moved, answerBoth, answered, Motion.ofExcept]
  | @select answer items supply keeps seen supplied ih =>
      obtain ⟨next, moved, left⟩ := ih listed
      cases answered : answer item with
      | none =>
          refine ⟨.select (fun _ => keeps) seen next, ?_, left.select keeps seen⟩
          simp [Pipe.step, moved, answerBoth, answered]
      | some result =>
          cases result with
          | ok value =>
              refine ⟨.select (fun _ => keeps) (seen + 1) next, ?_, left.select keeps (seen + 1)⟩
              cases kept : keeps value <;>
                simp [Pipe.step, moved, answerBoth, answered, Motion.ofExcept, kept]
          | error error =>
              refine ⟨.select (fun _ => keeps) seen next, ?_, left.select keeps seen⟩
              simp [Pipe.step, moved, answerBoth, answered, Motion.ofExcept]

/-- A pull is the end if no item is answered.  Otherwise it brings the first answer, and leaves the
items after the one that is answered. -/
theorem pull (itemwise : Itemwise world answer items pipe) (hub : Hub α) :
    (items.filterMap answer = [] ∧
      ∃ next, pipe.pull world hub = (.done, next, hub) ∧ Itemwise world answer [] next) ∨
    ∃ before item rest result next, items = before ++ item :: rest ∧
      before.filterMap answer = [] ∧ answer item = some result ∧
      pipe.pull world hub = (.ofExcept result, next, hub) ∧ Itemwise world answer rest next := by
  induction items generalizing pipe with
  | nil =>
      obtain ⟨next, moved, left⟩ := itemwise.step_nil hub
      refine Or.inl ⟨rfl, next, ?_, left⟩
      rw [Pipe.pull_eq]
      simp only [moved]
  | cons item rest ih =>
      obtain ⟨next, moved, left⟩ := itemwise.step_cons hub
      cases answered : answer item with
      | none =>
          have onward : pipe.pull world hub = next.pull world hub := by
            rw [Pipe.pull_eq]
            simp only [moved, answered, Option.elim]
          rw [onward]
          rcases ih left with ⟨unanswered, ended⟩ | ⟨before, other, later, result, last, rfl,
            passed, found, pulled, kept⟩
          · exact Or.inl ⟨by rw [List.filterMap_cons, answered, unanswered], ended⟩
          · exact Or.inr ⟨item :: before, other, later, result, last, rfl,
              by rw [List.filterMap_cons, answered, passed], found, pulled, kept⟩
      | some result =>
          refine Or.inr ⟨[], item, rest, result, next, rfl, rfl, answered, ?_, left⟩
          rw [Pipe.pull_eq]
          simp only [moved, answered, Option.elim]
          cases result <;> rfl

theorem filterMap_answered {before : List α} {result : Except RouteError α}
    (passed : before.filterMap answer = []) (answered : answer item = some result) :
    (before ++ item :: rest).filterMap answer = result :: rest.filterMap answer := by
  rw [List.filterMap_append, passed, List.nil_append, List.filterMap_cons_some answered]

/-- Items that are not answered do not fail. -/
theorem afterFailure_unanswered {before rest : List α} (passed : before.filterMap answer = []) :
    afterFailure answer (before ++ rest) = afterFailure answer rest := by
  refine afterFailure_append fun item member error failed => ?_
  rw [List.filterMap_eq_nil_iff.mp passed item member] at failed
  contradiction

/-- Collecting such a pipe yields all values or the first failure, and in that case leaves the items
after the one that fails. -/
theorem drain (itemwise : Itemwise world answer items pipe) (hub : Hub α) :
    ∃ left, pipe.drain world hub = ((items.filterMap answer).mapM id, left, hub) ∧
      Itemwise world answer (afterFailure answer items) left := by
  fun_induction Pipe.drain world pipe hub generalizing items with
  | case1 pipe hub value next later pulled rest left final drained ih =>
      rcases itemwise.pull hub with ⟨-, ended, same, -⟩ | ⟨before, item, others, result, onward,
        rfl, passed, answered, same, kept⟩
      · rw [pulled] at same
        simp at same
      · rw [pulled, Prod.mk.injEq, Prod.mk.injEq] at same
        obtain ⟨brought, rfl, rfl⟩ := same
        obtain rfl : result = .ok value := by
          cases result <;> simp_all [Answer.ofExcept]
        obtain ⟨final, collected, unread⟩ := ih kept
        rw [drained, Prod.mk.injEq, Prod.mk.injEq] at collected
        obtain ⟨rfl, rfl, rfl⟩ := collected
        refine ⟨left, ?_, ?_⟩
        · rw [filterMap_answered passed answered, List.mapM_cons]
          cases List.mapM id (others.filterMap answer) <;> rfl
        · rw [afterFailure_unanswered passed, afterFailure, answered]
          exact unread
  | case2 pipe hub next later pulled =>
      rcases itemwise.pull hub with ⟨unanswered, ended, same, left⟩ | ⟨before, item, others, result,
        onward, rfl, passed, answered, same, kept⟩
      · rw [pulled, Prod.mk.injEq, Prod.mk.injEq] at same
        obtain ⟨-, rfl, rfl⟩ := same
        have sound : afterFailure answer items = [] := by
          rw [← List.append_nil items, afterFailure_unanswered unanswered]
          rfl
        refine ⟨next, ?_, by rwa [sound]⟩
        rw [unanswered]
        rfl
      · rw [pulled] at same
        cases result <;> simp [Answer.ofExcept] at same
  | case3 pipe hub error next later pulled =>
      rcases itemwise.pull hub with ⟨-, ended, same, -⟩ | ⟨before, item, others, result, onward,
        rfl, passed, answered, same, kept⟩
      · rw [pulled] at same
        simp at same
      · rw [pulled, Prod.mk.injEq, Prod.mk.injEq] at same
        obtain ⟨brought, rfl, rfl⟩ := same
        obtain rfl : result = .error error := by
          cases result <;> simp_all [Answer.ofExcept]
        refine ⟨next, ?_, ?_⟩
        · rw [filterMap_answered passed answered, List.mapM_cons]
          rfl
        · rw [afterFailure_unanswered passed, afterFailure, answered]
          exact kept

end Itemwise

end RoutedGraph
