import Mathlib.Data.List.Induction
import RoutedGraph.Proofs.Section.Brackets

/-!
# Failures that overtake a section

A sorting stage learns of the end of a section while it moves its supply, and
the same move goes on to the next marker.  If that marker or its expansion fails,
the failure is passed on at once, before the items that have just become ready.
So a failure overtakes the last section with items, unless another failure has
come in between, and no section before that.
-/

namespace RoutedGraph

variable {α : Type}

/-- What a marker comes to: the items of its section in their order, or a failure. -/
abbrev Turn (α : Type) := Except RouteError (List α)

namespace Turn

/-- What the results of a supply come to.  Only markers that can be expanded are counted. -/
def ofResults (expand : α → Except RouteError (List α)) (sort : α → Nat → List α → List α) :
    Nat → List (Except RouteError α) → List (Turn α)
  | _, [] => []
  | number, .error error :: rest => .error error :: ofResults expand sort number rest
  | number, .ok marker :: rest =>
      match expand marker with
      | .ok children => .ok (sort marker number children) :: ofResults expand sort (number + 1) rest
      | .error error => .error error :: ofResults expand sort number rest

/-- The items of all sections, in order. -/
def contents (turns : List (Turn α)) : List α :=
  turns.flatMap fun
    | .ok items => items
    | .error _ => []

def values (results : List (Except RouteError α)) : List α :=
  results.filterMap fun
    | .ok value => some value
    | .error _ => none

def failures {β : Type} (results : List (Except RouteError β)) : List RouteError :=
  results.filterMap fun
    | .ok _ => none
    | .error error => some error

/-- The items that are ready after a turn, given those that are ready before it. -/
def next (ready : List α) : Turn α → List α
  | .error _ => []
  | .ok [] => ready
  | .ok (item :: items) => item :: items

/-- What is passed on in a turn, given the items that are ready before it. -/
def emits (ready : List α) : Turn α → List (Except RouteError α)
  | .error error => .error error :: ready.map .ok
  | .ok [] => []
  | .ok (_ :: _) => ready.map .ok

/-- The items that are ready after some turns. -/
def waiting (ready : List α) (turns : List (Turn α)) : List α := turns.foldl next ready

/-- What is passed on in some turns. -/
def passed : List α → List (Turn α) → List (Except RouteError α)
  | _, [] => []
  | ready, turn :: rest => emits ready turn ++ passed (next ready turn) rest

/-- What is passed on in some turns and when nothing follows them. -/
def relayed (ready : List α) (turns : List (Turn α)) : List (Except RouteError α) :=
  passed ready turns ++ (waiting ready turns).map .ok

theorem relayed_cons (ready : List α) (turn : Turn α) (rest : List (Turn α)) :
    relayed ready (turn :: rest) = emits ready turn ++ relayed (next ready turn) rest :=
  List.append_assoc _ _ _

theorem contents_append (first second : List (Turn α)) :
    contents (first ++ second) = contents first ++ contents second :=
  List.flatMap_append

theorem values_append (first second : List (Except RouteError α)) :
    values (first ++ second) = values first ++ values second :=
  List.filterMap_append

theorem values_map_ok (items : List α) : values (items.map .ok) = items := by
  induction items with
  | nil => rfl
  | cons item items ih => exact congrArg (item :: ·) ih

theorem failures_append {β : Type} (first second : List (Except RouteError β)) :
    failures (first ++ second) = failures first ++ failures second :=
  List.filterMap_append

theorem failures_map_ok {β : Type} (items : List β) : failures (items.map .ok) = [] := by
  induction items with
  | nil => rfl
  | cons item items ih => exact ih

/-- A turn loses no item. -/
theorem values_emits (ready : List α) (turn : Turn α) :
    values (emits ready turn) ++ next ready turn = ready ++ contents [turn] := by
  cases turn with
  | error error =>
      simp only [emits, next, contents, List.flatMap_cons, List.flatMap_nil]
      exact congrArg (· ++ []) (values_map_ok ready)
  | ok items =>
      cases items with
      | nil => simp [emits, next, contents, values]
      | cons item items => simp [emits, next, contents, values_map_ok]

theorem failures_emits (ready : List α) (turn : Turn α) :
    failures (emits ready turn) = failures [turn] := by
  cases turn with
  | error error => exact congrArg (error :: ·) (failures_map_ok ready)
  | ok items =>
      cases items with
      | nil => rfl
      | cons item items => exact failures_map_ok ready

/-- What has been passed on and what is ready are the items of all sections so far, in order. -/
theorem values_passed (ready : List α) (turns : List (Turn α)) :
    values (passed ready turns) ++ waiting ready turns = ready ++ contents turns := by
  induction turns generalizing ready with
  | nil => simp [passed, waiting, contents, values]
  | cons turn rest ih =>
      have onward := ih (next ready turn)
      rw [passed, values_append, List.append_assoc, waiting, List.foldl_cons]
      rw [waiting] at onward
      rw [onward, ← List.append_assoc, values_emits, List.append_assoc, ← contents_append]
      rfl

/-- Failures are passed on in order. -/
theorem failures_passed (ready : List α) (turns : List (Turn α)) :
    failures (passed ready turns) = failures turns := by
  induction turns generalizing ready with
  | nil => rfl
  | cons turn rest ih =>
      rw [passed, failures_append, failures_emits, ih, ← failures_append]
      rfl

theorem values_relayed (ready : List α) (turns : List (Turn α)) :
    values (relayed ready turns) = ready ++ contents turns := by
  rw [relayed, values_append, values_map_ok, values_passed]

theorem failures_relayed (ready : List α) (turns : List (Turn α)) :
    failures (relayed ready turns) = failures turns := by
  rw [relayed, failures_append, failures_map_ok, failures_passed, List.append_nil]

theorem relayed_append (ready : List α) (first second : List (Turn α)) :
    relayed ready (first ++ second) =
      passed ready first ++ relayed (waiting ready first) second := by
  induction first generalizing ready with
  | nil => rfl
  | cons turn rest ih =>
      rw [List.cons_append, relayed_cons, ih, passed, List.append_assoc]
      rfl

theorem waiting_append (ready : List α) (first second : List (Turn α)) :
    waiting ready (first ++ second) = waiting (waiting ready first) second :=
  List.foldl_append

/-- Sections without items leave what is ready. -/
theorem waiting_of_empty (ready : List α) {turns : List (Turn α)}
    (empty : ∀ turn ∈ turns, turn = .ok []) : waiting ready turns = ready := by
  induction turns with
  | nil => rfl
  | cons turn rest ih =>
      obtain rfl := empty turn List.mem_cons_self
      exact ih fun other member => empty other (List.mem_cons_of_mem _ member)

/-- Items that wait are those of the last section with items, and no failure has come since. -/
theorem waiting_eq_iff {turns : List (Turn α)} {items : List α} (filled : items ≠ []) :
    waiting [] turns = items ↔
      ∃ earlier later, turns = earlier ++ .ok items :: later ∧ ∀ turn ∈ later, turn = .ok [] := by
  obtain ⟨item, others, rfl⟩ := List.exists_cons_of_ne_nil filled
  constructor
  · intro waits
    -- From the last turn backwards, since a turn may leave everything as it is.
    induction turns using List.reverseRecOn with
    | nil => cases waits
    | append_singleton turns turn ih =>
        rw [waiting_append] at waits
        cases turn with
        | error error => cases waits
        | ok last =>
            cases last with
            | nil =>
                obtain ⟨earlier, later, rfl, empty⟩ := ih waits
                refine ⟨earlier, later ++ [.ok []], by simp, fun turn member => ?_⟩
                rcases List.mem_append.mp member with former | latest
                · exact empty turn former
                · exact List.mem_singleton.mp latest
            | cons first rest =>
                cases waits
                exact ⟨turns, [], rfl, fun _ member => by cases member⟩
  · rintro ⟨earlier, later, rfl, empty⟩
    rw [waiting_append]
    exact waiting_of_empty (item :: others) empty

end Turn

namespace Window

variable {hears : EventsId → Bool} {events : EventsId}
  {expand : α → Except RouteError (List α)}

/-- The items of a section that can be expanded are passed on as soon as the next item, failure or
end of the supply comes. -/
theorem answers_relay_bracketed (listens : hears events = true) {window : Window α}
    (quiet : window.pending = []) (number : Nat) (marker : α) (children : List α)
    (rest : List (Moment α)) :
    ∃ after : Window α, after.pending = [] ∧ after.sorter = window.sorter ∧
      after.ready =
        Turn.next window.ready (.ok (window.sorter.sort (some marker) number children)) ∧
      Moment.answers
          (window.relay hears (Moment.bracketed events number marker children ++ rest)) =
        Turn.emits window.ready (.ok (window.sorter.sort (some marker) number children)) ++
          Moment.answers (after.relay hears rest) := by
  have answers_bracketed (items : List α) (rest : List (Moment α)) :
      Moment.answers (Moment.bracketed events number marker items ++ rest) =
        items.map .ok ++ Moment.answers rest := by
    simp [Moment.bracketed]
  by_cases filled : children = []
  · subst filled
    refine ⟨{ window with index := number }, quiet, rfl, ?_, ?_⟩
    · rw [Sorter.sort_nil, Turn.next]
    · rw [relay_empty_section listens quiet, answers_bracketed, Sorter.sort_nil]
      rfl
  · have sorted : window.sorter.sort (some marker) number children ≠ [] := fun empty =>
      filled ((List.Perm.nil_eq (empty ▸ (window.sorter.sort_perm _ _ children))).symm)
    obtain ⟨first, others, listed⟩ := List.exists_cons_of_ne_nil sorted
    refine ⟨{ window with
      index := number
      ready := window.sorter.sort (some marker) number children }, quiet, rfl, ?_, ?_⟩
    · rw [listed, Turn.next]
    · rw [relay_section listens quiet _ _ filled, answers_bracketed, listed]
      rfl

/-- What a consumer receives from a stage that sorts sections. -/
theorem answers_relay_expanded (only : ∀ other, hears other = decide (events = other))
    (window : Window α) (quiet : window.pending = []) (number : Nat) {moments : List (Moment α)}
    (apart : ∀ call, .announced call ∈ moments → call.events ≠ events) :
    Moment.answers (window.relay hears (Moment.expanded expand events number moments)) =
      Turn.relayed window.ready (Turn.ofResults expand
        (fun marker => window.sorter.sort (some marker)) number (Moment.answers moments)) := by
  have listens : hears events = true := by simp [only]
  induction moments generalizing window number with
  | nil =>
      have closed : (window.finish none window.index).ready = window.ready := by
        rw [finish_of_empty quiet]
      exact (congrArg _ (congrArg _ closed)).trans (Moment.answers_map_item _)
  | cons moment rest ih =>
      have unheard : ∀ call, .announced call ∈ rest → call.events ≠ events :=
        fun call member => apart call (List.mem_cons_of_mem _ member)
      have onward (number : Nat) := ih window.drained quiet number unheard
      cases moment with
      | announced call =>
          have other : hears call.events = false := by
            rw [only]
            exact decide_eq_false fun same => apart call List.mem_cons_self same.symm
          rw [Moment.expanded, relay, attend, other]
          exact ih window quiet number unheard
      | failed error =>
          rw [Moment.expanded, relay, Moment.answers_failed, Moment.answers_append,
            Moment.answers_map_item, onward, Moment.answers_failed, Turn.ofResults,
            Turn.relayed_cons]
          rfl
      | item marker =>
          rw [Moment.expanded, Moment.answers_item, Turn.ofResults]
          cases expand marker with
          | ok children =>
              obtain ⟨after, still, same, ready, answered⟩ :=
                answers_relay_bracketed listens quiet number marker children
                  (Moment.expanded expand events (number + 1) rest)
              simp only [answered, Turn.relayed_cons]
              rw [ih after still (number + 1) unheard, same, ready]
          | error error =>
              have started : window.attend hears ⟨events, .start, marker, number⟩ =
                  { window with index := number } := by
                simp [attend, listens, hear, start, quiet]
              have later := ih ({ window with index := number } : Window α).drained quiet number
                unheard
              simp only [relay, started, Moment.answers_announced, Moment.answers_failed,
                Moment.answers_append, Moment.answers_map_item, later, Turn.relayed_cons]
              rfl

end Window

namespace Route

/-- What a consumer receives from sections that are sorted, if it goes on after failures: all
children, sorted section by section, and all failures, both in order.  A failure comes after all
children of the sections that have ended before it but those that wait, which follow it.  These are
the children of the last section that has any, unless another failure has come after that section;
then none wait. -/
theorem sortedSections_failures {κ : Type*} [LinearOrder κ] (route : Route)
    (type : ElementType) (expand : Stores → Item → Except RouteError (List Item))
    (key : Item → Option Item → Nat → κ) (traced : Bool) (stores : Stores) {hub : Hub Item}
    (numbers : hub.Numbers route.pipe.windows) (knows : hub.Knows route.pipe) :
    let ((sectioned, events), opened) := route.sections type expand hub
    let (sorted, listening) := sectioned.sortSections events (Sorter.byKey key traced) opened
    let received := sorted.pipe.received stores listening
    let turns := Turn.ofResults (expand stores)
      (fun marker number => stableSort fun item => key item (some marker) number) 0
      (route.pipe.received stores hub)
    Turn.values received = Turn.contents turns ∧
    Turn.failures received = Turn.failures turns ∧
    ∀ before error after, turns = before ++ .error error :: after →
      ∃ earlier waiting later,
        received = earlier ++ .error error :: (waiting.map .ok ++ later) ∧
        Turn.values earlier ++ waiting = Turn.contents before ∧
        Turn.failures earlier = Turn.failures before ∧
        ∀ items, items ≠ [] → (waiting = items ↔
          ∃ former latter, before = former ++ .ok items :: latter ∧
            ∀ turn ∈ latter, turn = .ok []) := by
  let sectioned := (route.sections type expand hub).1.1
  let opened := hub.openEvents.2
  let events := hub.openEvents.1
  let sorter := Sorter.byKey key traced
  have silent (other : EventsId) : opened.hears ⟨opened.nextWindow⟩ other = false :=
    numbers.silent other
  have only : ∀ other, (sectioned.sortSections events sorter opened).2.hears
      ⟨opened.nextWindow⟩ other = decide (events = other) := by
    intro other
    rw [hears_sortSections, silent]
    simp
  have ignores : route.pipe.Ignores opened events := knows.ignores []
  have supplied : route.pipe.transcript stores opened = route.pipe.transcript stores hub :=
    Pipe.transcript_congr ⟨fun _ _ => rfl, fun _ _ => rfl⟩
  have expanded : sectioned.pipe.transcript stores opened =
      Moment.expanded (expand stores) events 0 (route.pipe.transcript stores hub) := by
    rw [← supplied]
    exact Pipe.transcript_sections expand ignores 0
  have apart : ∀ call, .announced call ∈ route.pipe.transcript stores hub →
      call.events ≠ events := by
    intro call member same
    have voice := Pipe.transcript_voices stores member
    rw [same] at voice
    exact knows.apart voice
  have unused : ⟨opened.nextWindow⟩ ∉ sectioned.pipe.windows := numbers.unused
  have listed : (sectioned.sortSections events sorter opened).1.pipe.received stores
      (sectioned.sortSections events sorter opened).2 =
        Turn.relayed [] (Turn.ofResults (expand stores)
          (fun marker number => stableSort fun item => key item (some marker) number) 0
          (route.pipe.received stores hub)) := by
    rw [Pipe.received_eq_answers, Pipe.received_eq_answers,
      sectioned.transcript_sortSections events sorter stores unused, expanded]
    exact Window.answers_relay_expanded only (Window.fresh sorter) rfl 0 apart
  refine And.intro ?_ (And.intro ?_ ?_)
  · exact (congrArg Turn.values listed).trans (Turn.values_relayed [] _)
  · exact (congrArg Turn.failures listed).trans (Turn.failures_relayed [] _)
  · intro before error after split
    refine ⟨Turn.passed [] before, Turn.waiting [] before, Turn.relayed [] after, ?_,
      Turn.values_passed [] before, Turn.failures_passed [] before,
      fun items filled => Turn.waiting_eq_iff filled⟩
    refine listed.trans ?_
    rw [split, Turn.relayed_append, Turn.relayed_cons]
    rfl

/-- The first section has ended when the second marker fails to be expanded, and the failure comes
before its children. -/
theorem sortedSections_overtaken :
    let one : Item := .value (.int 1)
    let two : Item := .value (.int 2)
    let refused : Item := .value .null
    let error : RouteError := .graph (.invalidOperation "refused")
    let expand : Stores → Item → Except RouteError (List Item) := fun _ item =>
      if item.amount = 0 then .error error else .ok [two, one]
    let key : Item → Option Item → Nat → Int := fun item _ _ => item.amount
    let ((sectioned, events), opened) :=
      (ofItems [one, refused] .scalar).sections .scalar expand Hub.empty
    let (sorted, listening) := sectioned.sortSections events (Sorter.byKey key false) opened
    ∃ earlier later, sorted.pipe.received Dict.empty listening =
        earlier ++ .error error :: (.ok one :: .ok two :: later) ∧
      Turn.values earlier = [] := by
  intro one two refused error expand key
  have numbers : (Hub.empty : Hub Item).Numbers (ofItems [one, refused] .scalar).pipe.windows :=
    Hub.numbers_empty
  have knows : (Hub.empty : Hub Item).Knows (ofItems [one, refused] .scalar).pipe :=
    ⟨fun _ member => absurd member List.not_mem_nil, fun _ heard => absurd rfl heard⟩
  have results : (ofItems [one, refused] .scalar).pipe.received Dict.empty Hub.empty =
      [.ok one, .ok refused] := by
    rw [Pipe.received_eq_answers]
    exact congrArg Moment.answers (Pipe.transcript_ofItems _ _ _)
  have ascending : stableSort (fun item => key item one 0) [two, one] = [one, two] := by
    simp [stableSort, List.mergeSort, List.MergeSort.Internal.splitInTwo, key, Item.amount, one,
      two]
  have turns : Turn.ofResults (expand Dict.empty)
      (fun marker number => stableSort fun item => key item (some marker) number) 0
      ((ofItems [one, refused] .scalar).pipe.received Dict.empty Hub.empty) =
        [.ok [one, two]] ++ .error error :: [] := by
    rw [results, ← ascending]
    rfl
  obtain ⟨-, -, each⟩ := sortedSections_failures (ofItems [one, refused] .scalar) .scalar expand
    key false Dict.empty numbers knows
  obtain ⟨earlier, waiting, later, received, contents, -, waits⟩ := each _ _ _ turns
  obtain rfl : waiting = [one, two] :=
    (waits [one, two] (by simp)).mpr ⟨[], [], rfl, fun _ member => by cases member⟩
  exact ⟨earlier, later, received, List.append_left_eq_self.mp contents⟩

end Route

end RoutedGraph
