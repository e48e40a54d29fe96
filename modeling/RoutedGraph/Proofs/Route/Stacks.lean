import Mathlib.Data.List.Basic
import RoutedGraph.Proofs.Pipe.Itemwise
import RoutedGraph.Route.Basic

/-!
# Stacks of stages on routes

A stage that changes or selects answers every item on its own, and so does a
stack of such stages of any height.  Pulling the stack again and again brings
what taking the items one by one through the whole stack would bring, in the
same order, and then nothing more.
-/

namespace RoutedGraph

/-- A stage that answers every item on its own. -/
inductive Stage where
  | map (type : ElementType) (change : Item → Except RouteError Item)
  | select (keeps : Item → Bool)
  | payloads
  | compact
  | heads (type : ElementType)
  | tails (type : ElementType)
  | pairs (head tail : Int)
  | lengths (condition : LengthMatch)
  | trees

namespace Stage

/-- Put a stage on a route. -/
def onto (route : Route) : Stage → Route
  | map type change => route.map type change
  | select keeps => route.select fun _ => keeps
  | payloads => route.payloads
  | compact => route.compact
  | heads type => route.heads type
  | tails type => route.tails type
  | pairs head tail => route.pairs head tail
  | lengths condition => route.lengths condition
  | trees => route.trees

/-- What becomes of an item in a stage: nothing, a value or a failure. -/
def answer : Stage → Item → Option (Except RouteError Item)
  | map _ change, item => some (change item)
  | select keeps, item => if keeps item then some (.ok item) else none
  | payloads, item => some (.ok (.path item.toPath.payloads))
  | compact, item => some (.ok (.path item.toPath.compact))
  | heads _, item => some ((item.toPath.slotAt 0).map Item.slot)
  | tails _, item => some ((item.toPath.slotAt (-1)).map Item.slot)
  | pairs head tail, item => some ((item.toPath.pair head tail).map Item.path)
  | lengths condition, item =>
      if condition.accepts item.toPath.length then some (.ok item) else none
  | trees, item => some (.ok (.value (.map item.toPath.tree)))

/-- Put stages on a route, the first one first. -/
def stack (stages : List Stage) (route : Route) : Route := stages.foldl onto route

/-- What becomes of an item in a whole stack, the first stage first. -/
def through : List Stage → Item → Option (Except RouteError Item)
  | [], item => some (.ok item)
  | stage :: stages, item => answerBoth stage.answer (through stages) item

variable {stores : Stores} {answers : Item → Option (Except RouteError Item)} {items : List Item}
  {route : Route}

theorem itemwise_onto (stage : Stage) (itemwise : Itemwise stores answers items route.pipe) :
    Itemwise stores (answerBoth answers stage.answer) items (stage.onto route).pipe := by
  cases stage with
  | map type change => exact itemwise.map change 0
  | select keeps => exact itemwise.select keeps 0
  | payloads => exact itemwise.map _ 0
  | compact => exact itemwise.map _ 0
  | heads type => exact itemwise.map _ 0
  | tails type => exact itemwise.map _ 0
  | pairs head tail => exact itemwise.map _ 0
  | lengths condition => exact itemwise.select _ 0
  | trees => exact itemwise.map _ 0

theorem itemwise_stack (stages : List Stage) (itemwise : Itemwise stores answers items route.pipe) :
    Itemwise stores (answerBoth answers (through stages)) items (stack stages route).pipe := by
  induction stages generalizing answers route with
  | nil =>
      rw [show through [] = fun item => some (.ok item) from rfl, answerBoth_pass]
      exact itemwise
  | cons stage stages ih =>
      rw [show through (stage :: stages) = answerBoth stage.answer (through stages) from rfl,
        ← answerBoth_assoc]
      exact ih (stage.itemwise_onto itemwise)

end Stage

namespace World

/-- What a route answers when it is pulled so many times. -/
def pulls (world : World) (route : Route) : Nat → List (Answer Item)
  | 0 => []
  | count + 1 =>
      let (answer, rest, later) := world.pull route
      answer :: later.pulls rest count

variable {world : World} {answers : Item → Option (Except RouteError Item)} {items : List Item}
  {route : Route}

theorem pulls_itemwise (itemwise : Itemwise world.stores answers items route.pipe) (count : Nat) :
    world.pulls route count =
      ((items.filterMap answers).map Answer.ofExcept).take count ++
        List.replicate (count - (items.filterMap answers).length) Answer.done := by
  induction count generalizing items route with
  | zero => rw [Nat.zero_sub]; rfl
  | succ count ih =>
      rcases itemwise.pull world.toHub with ⟨unanswered, next, pulled, left⟩ | ⟨before, item, rest,
        result, next, rfl, passed, answered, pulled, left⟩
      · have brought : world.pull route = (.done, { route with pipe := next }, world) := by
          simp only [World.pull, pulled]
          rfl
        have later : Itemwise world.stores answers [] ({ route with pipe := next } : Route).pipe :=
          left
        simp only [pulls, brought, ih later, unanswered]
        simp [List.replicate_succ]
      · have brought : world.pull route =
            (.ofExcept result, { route with pipe := next }, world) := by
          simp only [World.pull, pulled]
          rfl
        have later : Itemwise world.stores answers rest
          ({ route with pipe := next } : Route).pipe := left
        simp only [pulls, brought, ih later, Itemwise.filterMap_answered passed answered]
        simp

end World

theorem mapM_id_map_ok {ε β : Type} (values : List β) :
    (values.map (Except.ok : β → Except ε β)).mapM id = .ok values := by
  induction values with
  | nil => rfl
  | cons value values ih =>
      rw [List.map_cons, List.mapM_cons, ih]
      rfl

/-- Collecting a stack that answers every item with a value yields these values. -/
theorem World.collect_stack_of_values (world : World) {items : List Item} (type : ElementType)
    {stages : List Stage} (change : Item → Item)
    (answers : ∀ item ∈ items, Stage.through stages item = some (.ok (change item))) :
    (world.collect (Stage.stack stages (Route.ofItems items type))).1 =
      .ok (items.map change) := by
  have itemwise : Itemwise world.stores _ items
      (Stage.stack stages (Route.ofItems items type)).pipe :=
    Stage.itemwise_stack stages (.ofItems _)
  obtain ⟨left, drained, -⟩ := itemwise.drain world.toHub
  have answered : items.filterMap (Stage.through stages) = (items.map change).map Except.ok := by
    rw [List.map_map]
    exact List.filterMap_eq_map_iff_forall_eq_some.mpr answers
  simp only [World.collect, Pipe.collect_eq_drain, drained, pass_answerBoth, answered,
    mapM_id_map_ok]

/-- Lazy stacks agree with list processing.  Pulling a stack of stages over some items again and
again brings, in order, the answer of the whole stack to each item that it answers, and then no
more.  Collecting yields all values, or the first failure; it has then read the failing item and
none after it. -/
theorem Stage.pulls_stack (world : World) (items : List Item) (type : ElementType)
    (name : Option String) (graph : Option GraphId) (stages : List Stage) :
    let route := stack stages ⟨.ofItems items, type, name, graph⟩
    let results := items.filterMap (through stages)
    let drained := route.pipe.drain world.stores world.toHub
    (∀ more, world.pulls route (results.length + more) =
      results.map Answer.ofExcept ++ List.replicate more .done) ∧
    (world.collect route).1 = results.mapM id ∧
    world.collect route = (drained.1, world.withHub drained.2.2) ∧
    (∀ before item error after, items = before ++ item :: after →
      (∀ earlier ∈ before, ∀ other, through stages earlier ≠ some (.error other)) →
      through stages item = some (.error error) →
      (world.collect route).1 = .error error ∧
        drained.2.1.unread = after.map fun item _ => .ok item) := by
  intro route results drained
  have itemwise : Itemwise world.stores (through stages) items route.pipe := by
    rw [← pass_answerBoth (through stages)]
    exact itemwise_stack stages (.ofItems items)
  obtain ⟨left, emptied, kept⟩ := itemwise.drain world.toHub
  have collected : world.collect route = (drained.1, world.withHub drained.2.2) := by
    simp only [World.collect, Pipe.collect_eq_drain, drained]
  have outcome : drained.1 = results.mapM id := by
    simp only [drained, emptied]
    rfl
  refine ⟨fun more => ?_, ?_, collected, ?_⟩
  · have whole : (results.map Answer.ofExcept).take (results.length + more) =
        results.map Answer.ofExcept := List.take_of_length_le (by simp)
    rw [World.pulls_itemwise itemwise, whole, Nat.add_sub_cancel_left]
  · rw [collected, outcome]
  · rintro before item error after rfl sound failed
    rw [collected, outcome]
    refine ⟨outcome_of_failed sound failed, ?_⟩
    rw [afterFailure_of_failed sound failed] at kept
    simp only [drained, emptied]
    exact kept.unread

end RoutedGraph
