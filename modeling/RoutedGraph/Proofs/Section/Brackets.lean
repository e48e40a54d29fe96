import RoutedGraph.Proofs.Pipe.Stages
import RoutedGraph.Proofs.Section.SortedSections
import RoutedGraph.Proofs.Section.Watching

/-!
# Sections between their borders

A stage that expands markers announces the start of a section before it tries to
expand the marker.  A marker that cannot be expanded leaves a start without an
end, and its number is given to the next section.  But for such starts the
sections are well bracketed, whatever fails in between.
-/

namespace RoutedGraph

variable {ω α : Type}

namespace Moment

/-- Every section that starts ends before the next one starts, its end repeats its marker and its
number, and what comes in between is among its children; nothing else comes.  The number is that of
the section that has started, or else of the next one. -/
def WellBracketed (expand : α → Except RouteError (List α)) :
    Nat → Option α → List (Moment α) → Prop
  | _, current, [] => current = none
  | number, none, .announced ⟨_, .start, marker, index⟩ :: rest =>
      index = number ∧ WellBracketed expand number (some marker) rest
  | number, some current, .announced ⟨_, .finish, marker, index⟩ :: rest =>
      marker = current ∧ index = number ∧ WellBracketed expand (number + 1) none rest
  | _, _, .announced _ :: _ => False
  | number, some current, .item child :: rest =>
      (∃ children, expand current = .ok children ∧ child ∈ children) ∧
        WellBracketed expand number (some current) rest
  | _, none, .item _ :: _ => False
  | number, current, .failed _ :: rest => WellBracketed expand number current rest

/-- A moment that is not the start of a section that cannot be expanded. -/
def opens (expand : α → Except RouteError (List α)) : Moment α → Bool
  | .announced ⟨_, .start, marker, _⟩ => (expand marker).isOk
  | _ => true

variable {expand : α → Except RouteError (List α)} {events : EventsId} {number : Nat} {marker : α}
  {children : List α}

theorem opens_start (expands : expand marker = .ok children) :
    opens expand (.announced ⟨events, .start, marker, number⟩) = true := by
  rw [opens, expands]
  rfl

theorem opens_start_of_error {error : RouteError} (refuses : expand marker = .error error) :
    opens expand (.announced ⟨events, .start, marker, number⟩) = false := by
  rw [opens, refuses]
  rfl

/-- Of a section that can be expanded, nothing is left out. -/
theorem filter_opens_bracketed (expands : expand marker = .ok children) :
    (bracketed events number marker children).filter (opens expand) =
      bracketed events number marker children := by
  refine List.filter_eq_self.mpr fun moment member => ?_
  rcases List.mem_cons.mp member with rfl | later
  · exact opens_start expands
  · rcases List.mem_append.mp later with inside | last
    · obtain ⟨child, -, rfl⟩ := List.mem_map.mp inside
      rfl
    · obtain rfl := List.mem_singleton.mp last
      rfl

theorem wellBracketed_items {items : List α} (expands : expand marker = .ok children)
    (own : items ⊆ children) (rest : List (Moment α)) :
    WellBracketed expand number (some marker) (items.map .item ++ rest) ↔
      WellBracketed expand number (some marker) rest := by
  induction items with
  | nil => rfl
  | cons item items ih =>
      obtain ⟨here, others⟩ := List.cons_subset.mp own
      rw [List.map_cons, List.cons_append, WellBracketed, ih others]
      exact and_iff_right ⟨children, expands, here⟩

/-- A whole section is well bracketed. -/
theorem wellBracketed_bracketed (expands : expand marker = .ok children)
    (rest : List (Moment α)) :
    WellBracketed expand number none (bracketed events number marker children ++ rest) ↔
      WellBracketed expand (number + 1) none rest := by
  rw [bracketed, List.cons_append, List.append_assoc, WellBracketed,
    wellBracketed_items expands (List.Subset.refl _)]
  simp [WellBracketed]

/-- A section that has started and been given up is never made good. -/
theorem not_wellBracketed_expanded (current : Nat) (results : List (Except RouteError α)) :
    ¬ WellBracketed expand current (some marker)
      (expanded expand events number (results.map ofExcept)) := by
  induction results with
  | nil => simp [expanded, WellBracketed]
  | cons result rest ih =>
      cases result with
      | error error => exact ih
      | ok other =>
          rw [List.map_cons, ofExcept, expanded]
          cases expand other <;> simp [bracketed, WellBracketed]

/-- Sections are well bracketed exactly if every marker can be expanded. -/
theorem wellBracketed_expanded_iff (results : List (Except RouteError α)) :
    WellBracketed expand number none (expanded expand events number (results.map ofExcept)) ↔
      ∀ marker, .ok marker ∈ results → ∃ children, expand marker = .ok children := by
  induction results generalizing number with
  | nil => simp [expanded, WellBracketed]
  | cons result rest ih =>
      cases result with
      | error error => simpa [ofExcept, expanded, WellBracketed] using ih
      | ok marker =>
          rw [List.map_cons, ofExcept, expanded]
          cases expands : expand marker with
          | ok children =>
              rw [wellBracketed_bracketed expands, ih]
              simp [expands]
          | error error =>
              have broken : ¬ WellBracketed expand number (some marker)
                  (expanded expand events number (rest.map ofExcept)) :=
                not_wellBracketed_expanded number rest
              simp [WellBracketed, broken, expands]

/-- But for the starts of sections that cannot be expanded, sections are well bracketed. -/
theorem wellBracketed_filter_expanded (results : List (Except RouteError α)) :
    WellBracketed expand number none
      ((expanded expand events number (results.map ofExcept)).filter (opens expand)) := by
  induction results generalizing number with
  | nil => exact rfl
  | cons result rest ih =>
      cases result with
      | error error => exact ih
      | ok marker =>
          rw [List.map_cons, ofExcept, expanded]
          cases expands : expand marker with
          | ok children =>
              simp only [List.filter_append, filter_opens_bracketed expands]
              exact (wellBracketed_bracketed expands _).mpr ih
          | error error =>
              simp only [List.filter_cons, opens_start_of_error expands]
              exact ih

/-- What is announced to others stays away from what a listener of the sections notices. -/
theorem filter_expanded {moments : List (Moment α)}
    (apart : ∀ call, .announced call ∈ moments → call.events ≠ events) :
    (expanded expand events number moments).filter (Pipe.notices events) =
      expanded expand events number ((answers moments).map ofExcept) := by
  induction moments generalizing number with
  | nil => rfl
  | cons moment rest ih =>
      have onward (number : Nat) := @ih number fun call member =>
        apart call (List.mem_cons_of_mem _ member)
      cases moment with
      | announced call =>
          have others : events ≠ call.events := (apart call List.mem_cons_self).symm
          simpa [expanded, others] using onward number
      | failed error => exact congrArg (failed error :: ·) (onward number)
      | item marker =>
          rw [answers_item, List.map_cons, ofExcept, expanded, expanded]
          cases expand marker with
          | ok children =>
              have whole : (bracketed events number marker children).filter
                  (Pipe.notices events) = bracketed events number marker children := by
                refine List.filter_eq_self.mpr fun moment member => ?_
                simp only [bracketed, List.mem_cons, List.mem_append, List.mem_map,
                  List.not_mem_nil, or_false] at member
                rcases member with rfl | ⟨child, -, rfl⟩ | rfl <;> simp
              simp only [List.filter_append, whole, onward]
          | error error => simp [List.filter_cons, onward]

end Moment

namespace Hub

variable {hub : Hub α}

/-- Listeners begin to listen to announcements, one after the other. -/
def listen (hub : Hub α) (events : EventsId) (names : List String) : Hub α :=
  names.foldl (fun current name => current.subscribe events (.watcher name)) hub

theorem listeners_listen (hub : Hub α) (events : EventsId) (names : List String)
    (other : EventsId) :
    (hub.listen events names).listeners other =
      hub.listeners other ++ if events = other then names.map .watcher else [] := by
  induction names generalizing hub with
  | nil => simp [listen]
  | cons name names ih =>
      refine (ih (hub.subscribe events (.watcher name))).trans ?_
      rw [listeners_subscribe]
      by_cases same : events = other <;> simp [same]

/-- Windows do not notice who else listens. -/
theorem agree_listen (hub : Hub α) (windows : List WindowId) (events : EventsId)
    (names : List String) : Agree windows hub (hub.listen events names) := by
  induction names generalizing hub with
  | nil => exact Agree.refl windows hub
  | cons name names ih =>
      have once : Agree windows hub (hub.subscribe events (.watcher name)) := by
        refine ⟨fun id _ => funext fun other => ?_, fun _ _ => rfl⟩
        simp [hears_subscribe]
      exact once.trans (ih _)

/-- A listener that is new and begins to listen listens to nothing else. -/
theorem attends_listen (hub : Hub α) {names : List String} (nodup : names.Nodup) {name : String}
    (member : name ∈ names) (unused : ∀ other, .watcher name ∉ hub.listeners other)
    (events : EventsId) : (hub.listen events names).Attends name events := by
  intro other
  rw [listeners_listen, List.count_append, List.count_eq_zero.mpr (unused other), Nat.zero_add]
  split
  · have distinct : (names.map Subscriber.watcher).Nodup :=
      List.Pairwise.map _ (fun _ _ different same => different (Subscriber.watcher.inj same)) nodup
    rw [distinct.count, if_pos (List.mem_map_of_mem member)]
  · rfl

/-- The announcements of a pipe and those that somebody listens to have been opened. -/
structure Knows {ω : Type} (hub : Hub α) (pipe : Pipe ω α) : Prop where
  voices : ∀ events ∈ pipe.voices, events.raw < hub.nextEvents
  listeners : ∀ events, hub.listeners events ≠ [] → events.raw < hub.nextEvents

namespace Knows

variable {pipe : Pipe ω α} (knows : hub.Knows pipe)

include knows

/-- Announcements that are opened are new to the pipe. -/
theorem apart : ⟨hub.nextEvents⟩ ∉ pipe.voices := fun member =>
  Nat.lt_irrefl _ (knows.voices _ member)

theorem unheard : hub.listeners ⟨hub.nextEvents⟩ = [] :=
  Classical.byContradiction fun heard => Nat.lt_irrefl _ (knows.listeners _ heard)

theorem ignores (names : List String) :
    pipe.Ignores (hub.openEvents.2.listen hub.openEvents.1 names) hub.openEvents.1 := by
  intro id _
  rw [hears, listeners_listen]
  simp [openEvents, Hub.listeners, show hub.subscribers.getD _ [] = [] from knows.unheard]

end Knows

end Hub

/-- What a listener and the consumer notice of a stage that expands markers. -/
theorem Pipe.watched_sections {world : ω} {supply : Pipe ω α} {hub : Hub α} {name : String}
    {events : EventsId} (ignores : supply.Ignores hub events) (apart : events ∉ supply.voices)
    (attends : hub.Attends name events) (expand : ω → α → Except RouteError (List α)) :
    (sections expand events none [] 0 supply).watched world name events hub =
      Moment.expanded (expand world) events 0
        ((supply.received world hub).map Moment.ofExcept) := by
  rw [watched_eq_filter _ attends, transcript_sections expand ignores, received_eq_answers]
  exact Moment.filter_expanded fun call member same =>
    apart (same ▸ transcript_voices world member)

namespace Route

/-- What each listener hears that has listened from the start, in order with what the consumer is
answered: the results of the markers that the route brings, each with its section between its start
and its end, or with a start and the failure if it cannot be expanded.  This is well bracketed
exactly if every marker can be expanded, and in any case but for the starts of sections that
cannot. -/
theorem sections_brackets (route : Route) (type : ElementType)
    (expand : Stores → Item → Except RouteError (List Item)) (stores : Stores) {hub : Hub Item}
    (knows : hub.Knows route.pipe) {names : List String} (nodup : names.Nodup)
    (unused : ∀ name ∈ names, ∀ events, .watcher name ∉ hub.listeners events) :
    let ((sectioned, events), opened) := route.sections type expand hub
    let listening := opened.listen events names
    let results := route.pipe.received stores hub
    ∀ name ∈ names,
      let noticed := sectioned.pipe.watched stores name events listening
      noticed = Moment.expanded (expand stores) events 0 (results.map Moment.ofExcept) ∧
      (Moment.WellBracketed (expand stores) 0 none noticed ↔
        ∀ marker, .ok marker ∈ results → ∃ children, expand stores marker = .ok children) ∧
      Moment.WellBracketed (expand stores) 0 none
        (noticed.filter (Moment.opens (expand stores))) := by
  intro name member noticed
  let opened := hub.openEvents.2
  let events := hub.openEvents.1
  have attends : (opened.listen events names).Attends name events :=
    opened.attends_listen nodup member (unused name member) events
  have agree : Hub.Agree route.pipe.windows opened (opened.listen events names) :=
    opened.agree_listen _ events names
  have same : route.pipe.received stores (opened.listen events names) =
      route.pipe.received stores hub := by
    rw [Pipe.received_eq_answers, Pipe.received_eq_answers, Pipe.transcript_congr agree]
    exact congrArg _ (Pipe.transcript_congr ⟨fun _ _ => rfl, fun _ _ => rfl⟩)
  have listed : noticed = Moment.expanded (expand stores) events 0
      ((route.pipe.received stores hub).map Moment.ofExcept) := by
    rw [← same]
    exact Pipe.watched_sections (knows.ignores names) knows.apart attends expand
  refine ⟨listed, ?_, ?_⟩
  · rw [listed]
    exact Moment.wellBracketed_expanded_iff _
  · rw [listed]
    exact Moment.wellBracketed_filter_expanded _

/-- The first of two markers cannot be expanded: its start has no end, and the second section has
its number. -/
theorem sections_brackets_refused :
    let refused : Item := .value .null
    let marker : Item := .value (.int 1)
    let error : RouteError := .graph (.invalidOperation "refused")
    let expand : Stores → Item → Except RouteError (List Item) := fun _ item =>
      if item.amount = 0 then .error error else .ok [item, item]
    let ((sectioned, events), opened) :=
      (ofItems [refused, marker] .scalar).sections .scalar expand Hub.empty
    let noticed := sectioned.pipe.watched Dict.empty "listener" events
      (opened.listen events ["listener"])
    noticed =
        [.announced ⟨events, .start, refused, 0⟩, .failed error,
          .announced ⟨events, .start, marker, 0⟩, .item marker, .item marker,
          .announced ⟨events, .finish, marker, 0⟩] ∧
      ¬ Moment.WellBracketed (expand Dict.empty) 0 none noticed := by
  intro refused marker error expand
  have knows : (Hub.empty : Hub Item).Knows (ofItems [refused, marker] .scalar).pipe :=
    ⟨fun _ member => absurd member List.not_mem_nil, fun _ heard => absurd rfl heard⟩
  have unused : ∀ name ∈ ["listener"], ∀ events : EventsId,
      Subscriber.watcher name ∉ (Hub.empty : Hub Item).listeners events :=
    fun _ _ _ member => absurd member List.not_mem_nil
  have results : (ofItems [refused, marker] .scalar).pipe.received Dict.empty Hub.empty =
      [.ok refused, .ok marker] := by
    rw [Pipe.received_eq_answers]
    exact congrArg Moment.answers (Pipe.transcript_ofItems _ _ _)
  obtain ⟨listed, bracketed, -⟩ := sections_brackets (ofItems [refused, marker] .scalar) .scalar
    expand Dict.empty knows (by decide) unused "listener" List.mem_cons_self
  rw [results] at listed bracketed
  refine And.intro listed fun whole => ?_
  obtain ⟨children, expands⟩ := bracketed.mp whole refused List.mem_cons_self
  cases expands

end Route

end RoutedGraph
