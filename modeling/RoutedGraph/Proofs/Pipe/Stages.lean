import RoutedGraph.Proofs.Pipe.Transcript

/-!
# Transcripts of the stages

The transcript of a source lists what is read.  Stages that answer each item on
its own and stages that expand items into sections turn the transcript of their
supply into their own, and pass on what their supply announces.
-/

namespace RoutedGraph

variable {ω α : Type}

namespace Moment

/-- The moments of a stage that answers each item on its own, given how many came before it. -/
def through (answer : Nat → α → Option (Except RouteError α)) :
    Nat → List (Moment α) → List (Moment α)
  | _, [] => []
  | seen, .announced call :: rest => .announced call :: through answer seen rest
  | seen, .item value :: rest =>
      ((answer seen value).map ofExcept).toList ++ through answer (seen + 1) rest
  | seen, .failed error :: rest => .failed error :: through answer seen rest

@[simp]
theorem through_announcements (answer : Nat → α → Option (Except RouteError α)) (seen : Nat)
    (calls : List (Announcement α)) (rest : List (Moment α)) :
    through answer seen (calls.map .announced ++ rest) =
      calls.map .announced ++ through answer seen rest := by
  induction calls with
  | nil => rfl
  | cons call calls ih => exact congrArg (announced call :: ·) ih

/-- The section of a marker, between its start and its end. -/
def bracketed (events : EventsId) (index : Nat) (marker : α) (items : List α) : List (Moment α) :=
  .announced ⟨events, .start, marker, index⟩ ::
    (items.map .item ++ [.announced ⟨events, .finish, marker, index⟩])

/-- The moments of a stage that expands each item into a section.  The number of a section that
cannot be expanded is given to the next one. -/
def expanded (expand : α → Except RouteError (List α)) (events : EventsId) :
    Nat → List (Moment α) → List (Moment α)
  | _, [] => []
  | index, .announced call :: rest => .announced call :: expanded expand events index rest
  | index, .item marker :: rest =>
      match expand marker with
      | .ok children =>
          bracketed events index marker children ++ expanded expand events (index + 1) rest
      | .error error =>
          .announced ⟨events, .start, marker, index⟩ :: .failed error ::
            expanded expand events index rest
  | index, .failed error :: rest => .failed error :: expanded expand events index rest

@[simp]
theorem expanded_announcements (expand : α → Except RouteError (List α)) (events : EventsId)
    (index : Nat) (calls : List (Announcement α)) (rest : List (Moment α)) :
    expanded expand events index (calls.map .announced ++ rest) =
      calls.map .announced ++ expanded expand events index rest := by
  induction calls with
  | nil => rfl
  | cons call calls ih => exact congrArg (announced call :: ·) ih

end Moment

/-- The moments of a script up to its first stop. -/
def Cue.moments (events : EventsId) : List (Cue α) → List (Moment α)
  | [] => []
  | announce border marker index :: rest =>
      .announced ⟨events, border, marker, index⟩ :: moments events rest
  | fail error :: rest => .failed error :: moments events rest
  | stop :: _ => []
  | item value :: rest => .item value :: moments events rest

namespace Pipe

theorem transcript_source (world : ω) (readings : List (ω → Except RouteError α)) (hub : Hub α) :
    (source readings).transcript world hub =
      readings.map fun reading => .ofExcept (reading world) := by
  induction readings with
  | nil =>
      rw [transcript_eq]
      rfl
  | cons reading readings ih =>
      rw [transcript_eq, List.map_cons, ← ih]
      simp only [step, announced, List.map_nil, List.nil_append]
      cases reading world <;> rfl

theorem transcript_ofItems (world : ω) (items : List α) (hub : Hub α) :
    (ofItems items).transcript world hub = items.map .item := by
  rw [ofItems, transcript_source, List.map_map]
  rfl

theorem transcript_script (world : ω) (events : EventsId) (cues : List (Cue α)) (hub : Hub α) :
    (script events cues).transcript world hub = Cue.moments events cues := by
  induction cues generalizing hub with
  | nil =>
      rw [transcript_eq]
      rfl
  | cons cue cues ih =>
      rw [transcript_eq]
      cases cue with
      | announce border marker index => exact congrArg (_ :: ·) (ih _)
      | fail error => exact congrArg (_ :: ·) (ih _)
      | stop => rfl
      | item value => exact congrArg (_ :: ·) (ih _)

/-- A stage whose steps answer the items of its supply one by one. -/
theorem transcript_through {world : ω} (stage : Nat → Pipe ω α → Pipe ω α)
    (answer : Nat → α → Option (Except RouteError α))
    (announces : ∀ seen supply hub,
      (stage seen supply).announced world hub = supply.announced world hub)
    (steps : ∀ seen supply hub,
      (stage seen supply).step world hub =
        match supply.step world hub with
        | (.item value, next, later) =>
            ((answer seen value).elim .skip Motion.ofExcept, stage (seen + 1) next, later)
        | (motion, next, later) => (motion, stage seen next, later))
    (seen : Nat) (supply : Pipe ω α) (hub : Hub α) :
    (stage seen supply).transcript world hub =
      Moment.through answer seen (supply.transcript world hub) := by
  induction supply, hub using transcript.induct world generalizing seen with
  | case1 supply hub value next later moved ih =>
      rw [transcript_eq, transcript_eq world supply, Moment.through_announcements]
      simp only [announces, steps, moved, Moment.through, ← ih]
      cases answer seen value with
      | none => rfl
      | some answered => cases answered <;> rfl
  | case2 supply hub next later moved ih =>
      rw [transcript_eq, transcript_eq world supply, Moment.through_announcements]
      simp only [announces, steps, moved, ih]
  | case3 supply hub next later moved =>
      rw [transcript_eq, transcript_eq world supply, Moment.through_announcements]
      simp only [announces, steps, moved, Moment.through]
  | case4 supply hub error next later moved ih =>
      rw [transcript_eq, transcript_eq world supply, Moment.through_announcements]
      simp only [announces, steps, moved, Moment.through, ih]

theorem transcript_map (world : ω) (change : ω → Nat → α → Except RouteError α) (seen : Nat)
    (supply : Pipe ω α) (hub : Hub α) :
    (map change seen supply).transcript world hub =
      Moment.through (fun before value => some (change world before value)) seen
        (supply.transcript world hub) := by
  refine transcript_through (map change) _ (fun _ _ _ => rfl) (fun seen supply hub => ?_) seen
    supply hub
  simp only [step]
  split <;> simp_all

theorem transcript_select (world : ω) (keeps : Nat → α → Bool) (seen : Nat) (supply : Pipe ω α)
    (hub : Hub α) :
    (select keeps seen supply).transcript world hub =
      Moment.through (fun before value => if keeps before value then some (.ok value) else none)
        seen (supply.transcript world hub) := by
  refine transcript_through (select keeps) _ (fun _ _ _ => rfl) (fun seen supply hub => ?_) seen
    supply hub
  simp only [step]
  split
  · next value _ _ _ => cases kept : keeps seen value <;> simp_all [Motion.ofExcept]
  all_goals simp_all

section Sections

/-- No window of a pipe listens to certain announcements. -/
def Ignores (pipe : Pipe ω α) (hub : Hub α) (events : EventsId) : Prop :=
  ∀ id ∈ pipe.windows, hub.hears id events = false

variable {world : ω} {supply : Pipe ω α} {hub : Hub α} {events : EventsId}

theorem Ignores.step (world : ω) (ignores : supply.Ignores hub events) :
    (supply.step world hub).2.1.Ignores (supply.step world hub).2.2 events := by
  intro id member
  rw [windows_step] at member
  rw [hears_step]
  exact ignores id member

theorem Ignores.announce (ignores : supply.Ignores hub events) (border : Border) (marker : α)
    (number : Nat) : supply.Ignores (hub.announce events border marker number) events := by
  intro id member
  rw [Hub.hears_announce]
  exact ignores id member

variable (expand : ω → α → Except RouteError (List α))

/-- What is left of a section comes before its end. -/
theorem transcript_sections_children (current : Option α) (children : List α) (index : Nat)
    (supply : Pipe ω α) (hub : Hub α) :
    (sections expand events current children index supply).transcript world hub =
      children.map .item ++
        (sections expand events current [] index supply).transcript world hub := by
  induction children with
  | nil => rfl
  | cons child children ih =>
      rw [transcript_eq]
      exact congrArg (.item child :: ·) ih

/-- A section ends before the next one starts. -/
theorem transcript_sections_finish (marker : α) (index : Nat) (supply : Pipe ω α) (hub : Hub α) :
    (sections expand events (some marker) [] index supply).transcript world hub =
      .announced ⟨events, .finish, marker, index⟩ ::
        (sections expand events none [] (index + 1) supply).transcript world
          (hub.announce events .finish marker index) := by
  rw [transcript_eq, transcript_eq]
  rfl

/-- The supply of an expanding stage does not notice what the stage announces. -/
theorem transcript_sections_announce (ignores : supply.Ignores hub events) (index : Nat)
    (border : Border) (marker : α) (number : Nat) :
    (sections expand events none [] index supply).transcript world
        (hub.announce events border marker number) =
      (sections expand events none [] index supply).transcript world hub :=
  transcript_congr (Hub.agree_announce hub ignores border marker number)

theorem transcript_sections (ignores : supply.Ignores hub events) (index : Nat) :
    (sections expand events none [] index supply).transcript world hub =
      Moment.expanded (expand world) events index (supply.transcript world hub) := by
  induction supply, hub using transcript.induct world generalizing index with
  | case1 supply hub marker next later moved ih =>
      have onward : next.Ignores later events := by simpa only [moved] using ignores.step world
      rw [transcript_eq, transcript_eq world supply, Moment.expanded_announcements]
      simp only [announced, step, stepSections, moved, Moment.expanded]
      cases expand world marker with
      | ok children =>
          -- The section ends only when the stage moves again, and the supply ignores both borders.
          simp only [opening]
          rw [transcript_sections_children, transcript_sections_finish,
            transcript_sections_announce expand (onward.announce .start marker index),
            transcript_sections_announce expand onward, ih onward]
          simp [Moment.bracketed]
      | error error =>
          simp only [opening]
          rw [transcript_sections_announce expand onward, ih onward]
          simp
  | case2 supply hub next later moved ih =>
      have onward : next.Ignores later events := by simpa only [moved] using ignores.step world
      rw [transcript_eq, transcript_eq world supply, Moment.expanded_announcements]
      simp [announced, step, stepSections, moved, opening, ih onward]
  | case3 supply hub next later moved =>
      rw [transcript_eq, transcript_eq world supply, Moment.expanded_announcements]
      simp [announced, step, stepSections, moved, opening, Moment.expanded]
  | case4 supply hub error next later moved ih =>
      have onward : next.Ignores later events := by simpa only [moved] using ignores.step world
      rw [transcript_eq, transcript_eq world supply, Moment.expanded_announcements]
      simp [announced, step, stepSections, moved, opening, Moment.expanded, ih onward]

end Sections

end Pipe

end RoutedGraph
