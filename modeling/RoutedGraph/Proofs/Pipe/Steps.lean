import RoutedGraph.Pipe.Pull
import RoutedGraph.Proofs.Section.Hearing

/-!
# Steps of a pipe and the hub

As a pipe moves, its stages stay what they are.  A pipe reads and writes the
windows of its own sorting stages.  All other windows learn of a step only by
what is announced in it, and how a step goes depends on nothing in the hub but
the pipe's own windows and who listens to what.
-/

namespace RoutedGraph

variable {ω α : Type}

/-- Some windows have the same content in two hubs, and listen to the same announcements. -/
structure Hub.Agree (windows : List WindowId) (first second : Hub α) : Prop where
  hears : ∀ id ∈ windows, second.hears id = first.hears id
  window : ∀ id ∈ windows, second.window id = first.window id

namespace Hub

variable {windows : List WindowId} {first second : Hub α}

theorem Agree.refl (windows : List WindowId) (hub : Hub α) : Agree windows hub hub :=
  ⟨fun _ _ => rfl, fun _ _ => rfl⟩

theorem Agree.trans {third : Hub α} (agree : Agree windows first second)
    (onward : Agree windows second third) : Agree windows first third :=
  ⟨fun id member => (onward.hears id member).trans (agree.hears id member),
    fun id member => (onward.window id member).trans (agree.window id member)⟩

theorem Agree.subset {others : List WindowId} (agree : Agree windows first second)
    (part : others ⊆ windows) : Agree others first second :=
  ⟨fun id member => agree.hears id (part member), fun id member => agree.window id (part member)⟩

theorem Agree.announce (agree : Agree windows first second) (events : EventsId) (border : Border)
    (marker : α) (index : Nat) :
    Agree windows (first.announce events border marker index)
      (second.announce events border marker index) := by
  refine ⟨fun id member => ?_, fun id member => ?_⟩
  · rw [hears_announce, hears_announce, agree.hears id member]
  · rw [window_announce, window_announce, agree.window id member, agree.hears id member]

theorem Agree.setWindow (agree : Agree windows first second) (id : WindowId)
    (window : Window α) :
    Agree windows (first.setWindow id window) (second.setWindow id window) := by
  refine ⟨agree.hears, fun other member => ?_⟩
  by_cases here : id = other
  · subst here
    simp
  · rw [window_setWindow_of_ne _ here, window_setWindow_of_ne _ here, agree.window other member]

theorem Agree.finishWindow (agree : Agree windows first second) (id : WindowId)
    (marker : Option α) (index : Nat) :
    Agree windows (first.finishWindow id marker index) (second.finishWindow id marker index) := by
  refine ⟨fun other member => ?_, fun other member => ?_⟩
  · rw [(first.keeps_finishWindow _ _ _).hears, (second.keeps_finishWindow _ _ _).hears,
      agree.hears other member]
  · by_cases here : id = other
    · subst here
      rw [window_finishWindow_self, window_finishWindow_self, agree.window id member]
    · rw [window_finishWindow_of_ne _ here, window_finishWindow_of_ne _ here,
        agree.window other member]

theorem Agree.push (agree : Agree windows first second) {id : WindowId} (own : id ∈ windows)
    (item : α) : Agree windows (first.push id item) (second.push id item) := by
  unfold Hub.push
  rw [agree.window id own]
  exact agree.setWindow id _

/-- Only the windows that an announcement reaches are changed by it. -/
theorem agree_announce (hub : Hub α) {events : EventsId}
    (unheard : ∀ id ∈ windows, hub.hears id events = false) (border : Border) (marker : α)
    (index : Nat) : Agree windows hub (hub.announce events border marker index) := by
  refine ⟨fun id _ => hub.hears_announce _ _ _ _ id, fun id member => ?_⟩
  rw [window_announce, Window.attend, unheard id member]
  rfl

/-- Only the window that is written is changed. -/
theorem agree_setWindow (hub : Hub α) {id : WindowId} (apart : id ∉ windows)
    (window : Window α) : Agree windows hub (hub.setWindow id window) := by
  refine ⟨fun _ _ => rfl, fun other member => window_setWindow_of_ne _ ?_ _⟩
  rintro rfl
  exact apart member

end Hub

namespace Pipe

/-- What the stages of a pipe become as it moves: they read on, count on, and keep what they do. -/
inductive Becomes : Pipe ω α → Pipe ω α → Prop where
  | source {readings rest : List (ω → Except RouteError α)} (left : rest <:+ readings) :
      Becomes (source readings) (source rest)
  | script {cues rest : List (Cue α)} (events : EventsId) (left : rest <:+ cues) :
      Becomes (script events cues) (script events rest)
  | map {supply next : Pipe ω α} (change : ω → Nat → α → Except RouteError α) (seen later : Nat)
      (supplied : Becomes supply next) : Becomes (map change seen supply) (map change later next)
  | select {supply next : Pipe ω α} (keeps : Nat → α → Bool) (seen later : Nat)
      (supplied : Becomes supply next) :
      Becomes (select keeps seen supply) (select keeps later next)
  | sections {supply next : Pipe ω α} {current other : Option α} {children others : List α}
      {index later : Nat} (expand : ω → α → Except RouteError (List α)) (events : EventsId)
      (supplied : Becomes supply next) :
      Becomes (sections expand events current children index supply)
        (sections expand events other others later next)
  | sort {supply next : Pipe ω α} {held later : Nat} {pulling still exhausted ended : Bool}
      (window : WindowId) (supplied : Becomes supply next) :
      Becomes (sort window held pulling exhausted supply) (sort window later still ended next)

theorem Becomes.refl (pipe : Pipe ω α) : Becomes pipe pipe := by
  induction pipe with
  | source readings => exact .source (List.suffix_refl readings)
  | script events cues => exact .script events (List.suffix_refl cues)
  | map change seen supply ih => exact .map change seen seen ih
  | select keeps seen supply ih => exact .select keeps seen seen ih
  | sections expand events current children index supply ih => exact .sections expand events ih
  | sort window held pulling exhausted supply ih => exact .sort window ih

theorem becomes_stepSections {world : ω} {supply : Pipe ω α} {current : Option α}
    {children : List α} {former : Nat} (expand : ω → α → Except RouteError (List α))
    (events : EventsId) (index : Nat) {moved : Motion α × Pipe ω α × Hub α}
    (supplied : Becomes supply moved.2.1) :
    Becomes (sections expand events current children former supply)
      (stepSections world expand events index moved).2.1 := by
  obtain ⟨motion, next, later⟩ := moved
  cases motion with
  | item marker =>
      simp only [stepSections]
      split <;> exact .sections expand events supplied
  | skip => exact .sections expand events supplied
  | done => exact .sections expand events supplied
  | failed error => exact .sections expand events supplied

theorem becomes_stepSort {supply : Pipe ω α} {pulling exhausted : Bool} {former : Nat}
    (window : WindowId) (held : Nat) {moved : Motion α × Pipe ω α × Hub α}
    (supplied : Becomes supply moved.2.1) :
    Becomes (sort window former pulling exhausted supply) (stepSort window held moved).2.1 := by
  obtain ⟨motion, next, later⟩ := moved
  cases motion <;> exact .sort window supplied

theorem becomes_step (world : ω) (pipe : Pipe ω α) (hub : Hub α) :
    Becomes pipe (pipe.step world hub).2.1 := by
  induction pipe generalizing hub with
  | source readings =>
      cases readings with
      | nil => exact .refl _
      | cons reading rest => exact .source (List.suffix_cons reading rest)
  | script events cues =>
      cases cues with
      | nil => exact .refl _
      | cons cue rest => cases cue <;> exact .script events (List.suffix_cons _ rest)
  | map change seen supply ih =>
      have supplied := ih hub
      simp only [step]
      split <;> rename_i moved <;> rw [moved] at supplied <;> exact .map change _ _ supplied
  | select keeps seen supply ih =>
      have supplied := ih hub
      simp only [step]
      split <;> rename_i moved <;> rw [moved] at supplied <;> exact .select keeps _ _ supplied
  | sections expand events current children index supply ih =>
      cases children with
      | cons child children => exact .sections expand events (.refl supply)
      | nil =>
          cases current with
          | none => exact becomes_stepSections expand events index (ih _)
          | some marker => exact becomes_stepSections expand events (index + 1) (ih _)
  | sort window held pulling exhausted supply ih =>
      simp only [step]
      split
      · exact .sort window (.refl supply)
      · cases exhausted with
        | true => exact .sort window (.refl supply)
        | false => exact becomes_stepSort window held (ih hub)

section Stages

variable (world : ω) (seen : Nat) (supply : Pipe ω α) (hub : Hub α)

theorem hub_step_map (change : ω → Nat → α → Except RouteError α) :
    ((map change seen supply).step world hub).2.2 = (supply.step world hub).2.2 := by
  simp only [step]
  split <;> rename_i moved <;> rw [moved]

theorem hub_step_select (keeps : Nat → α → Bool) :
    ((select keeps seen supply).step world hub).2.2 = (supply.step world hub).2.2 := by
  simp only [step]
  split <;> rename_i moved <;> rw [moved]

end Stages

/-- The windows of the sorting stages of a pipe. -/
def windows : Pipe ω α → List WindowId
  | source _ => []
  | script _ _ => []
  | map _ _ supply => supply.windows
  | select _ _ supply => supply.windows
  | sections _ _ _ _ _ supply => supply.windows
  | sort window _ _ _ supply => window :: supply.windows

theorem Becomes.windows {pipe next : Pipe ω α} (becomes : Becomes pipe next) :
    next.windows = pipe.windows := by
  induction becomes with
  | source left => rfl
  | script events left => rfl
  | map change seen later supplied ih => exact ih
  | select keeps seen later supplied ih => exact ih
  | sections expand events supplied ih => exact ih
  | sort window supplied ih => exact congrArg (window :: ·) ih

/-- A step keeps the stages of a pipe. -/
theorem windows_step (world : ω) (pipe : Pipe ω α) (hub : Hub α) :
    (pipe.step world hub).2.1.windows = pipe.windows :=
  (becomes_step world pipe hub).windows

/-- The start that an expanding stage announces when its supply has moved. -/
def opening (events : EventsId) (index : Nat) : Motion α → List (Announcement α)
  | .item marker => [⟨events, .start, marker, index⟩]
  | _ => []

/-- What a step announces, in order. -/
def announced (world : ω) : Pipe ω α → Hub α → List (Announcement α)
  | source _, _ => []
  | script events (.announce border marker index :: _), _ => [⟨events, border, marker, index⟩]
  | script _ _, _ => []
  | map _ _ supply, hub => supply.announced world hub
  | select _ _ supply, hub => supply.announced world hub
  | sections _ _ _ (_ :: _) _ _, _ => []
  | sections _ events (some marker) [] index supply, hub =>
      let ended := hub.announce events .finish marker index
      ⟨events, .finish, marker, index⟩ ::
        (supply.announced world ended ++ opening events (index + 1) (supply.step world ended).1)
  | sections _ events none [] index supply, hub =>
      supply.announced world hub ++ opening events index (supply.step world hub).1
  | sort window held pulling exhausted supply, hub =>
      if (ready? window held pulling hub).isSome ∨ exhausted then []
      else supply.announced world hub

/-- Two steps are the same, up to the hub outside some windows. -/
structure SameStep (windows : List WindowId) (first second : Motion α × Pipe ω α × Hub α) :
    Prop where
  motion : second.1 = first.1
  pipe : second.2.1 = first.2.1
  hub : Hub.Agree windows first.2.2 second.2.2

variable {first second : Hub α} {world : ω}

theorem SameStep.stepSections {windows : List WindowId}
    {former latter : Motion α × Pipe ω α × Hub α} (same : SameStep windows former latter)
    (expand : ω → α → Except RouteError (List α)) (events : EventsId) (index : Nat) :
    SameStep windows (stepSections world expand events index former)
      (stepSections world expand events index latter) := by
  obtain ⟨_, _, later⟩ := former
  obtain ⟨motion, next, otherLater⟩ := latter
  obtain ⟨rfl, rfl, agree⟩ := same
  cases motion with
  | item marker =>
      simp only [Pipe.stepSections]
      split <;> exact ⟨rfl, rfl, agree.announce events .start marker index⟩
  | skip => exact ⟨rfl, rfl, agree⟩
  | done => exact ⟨rfl, rfl, agree⟩
  | failed error => exact ⟨rfl, rfl, agree⟩

theorem SameStep.stepSort {windows : List WindowId} {window : WindowId}
    {former latter : Motion α × Pipe ω α × Hub α} (same : SameStep windows former latter)
    (own : window ∈ windows) (held : Nat) :
    SameStep windows (stepSort window held former) (stepSort window held latter) := by
  obtain ⟨_, _, later⟩ := former
  obtain ⟨motion, next, otherLater⟩ := latter
  obtain ⟨rfl, rfl, agree⟩ := same
  cases motion with
  | item value => exact ⟨rfl, rfl, agree.push own value⟩
  | skip => exact ⟨rfl, rfl, agree⟩
  | done =>
      have here := agree.window window own
      simp only [Pipe.stepSort]
      rw [here]
      have finished := agree.finishWindow window none (later.window window).index
      exact ⟨rfl, rfl, finished.hears, finished.window⟩
  | failed error => exact ⟨rfl, rfl, agree⟩

/-- A sorting stage passes on the first item that is ready in its window, or none, whatever else is
in the hub. -/
theorem ready?_cases (window : WindowId) (held : Nat) (pulling : Bool) (content : Window α) :
    (∀ hub : Hub α, hub.window window = content → ready? window held pulling hub = none) ∨
      ∃ item rest items, held = rest + 1 ∧ pulling = false ∧ content.ready = item :: items ∧
        ∀ hub : Hub α, hub.window window = content →
          ready? window held pulling hub =
            some (item, rest, hub.setWindow window { content with ready := items }) := by
  cases held with
  | zero => exact Or.inl fun _ _ => rfl
  | succ rest =>
      cases pulling with
      | true => exact Or.inl fun _ _ => rfl
      | false =>
          cases listed : content.ready with
          | nil =>
              refine Or.inl fun hub same => ?_
              simp [ready?, Hub.pop?, same, listed]
          | cons item items =>
              refine Or.inr ⟨item, rest, items, rfl, rfl, rfl, fun hub same => ?_⟩
              simp [ready?, Hub.pop?, same, listed]

/-- A step is the same in hubs that agree on the windows of the pipe. -/
theorem sameStep_step {pipe : Pipe ω α} {windows : List WindowId}
    (agree : Hub.Agree windows first second) (own : pipe.windows ⊆ windows) :
    SameStep windows (pipe.step world first) (pipe.step world second) := by
  induction pipe generalizing first second with
  | source readings => cases readings <;> exact ⟨rfl, rfl, agree⟩
  | script events cues =>
      cases cues with
      | nil => exact ⟨rfl, rfl, agree⟩
      | cons cue rest =>
          cases cue with
          | announce border marker index =>
              exact ⟨rfl, rfl, agree.announce events border marker index⟩
          | fail error => exact ⟨rfl, rfl, agree⟩
          | stop => exact ⟨rfl, rfl, agree⟩
          | item value => exact ⟨rfl, rfl, agree⟩
  | map change seen supply ih =>
      obtain ⟨motion, next, hub⟩ := ih agree own
      simp only [step]
      generalize supply.step world first = former at motion next hub ⊢
      generalize supply.step world second = latter at motion next hub ⊢
      obtain ⟨_, _, later⟩ := former
      obtain ⟨moved, _, otherLater⟩ := latter
      obtain rfl : moved = _ := motion
      obtain rfl := next
      cases moved <;> exact ⟨rfl, rfl, hub⟩
  | select keeps seen supply ih =>
      obtain ⟨motion, next, hub⟩ := ih agree own
      simp only [step]
      generalize supply.step world first = former at motion next hub ⊢
      generalize supply.step world second = latter at motion next hub ⊢
      obtain ⟨_, _, later⟩ := former
      obtain ⟨moved, _, otherLater⟩ := latter
      obtain rfl : moved = _ := motion
      obtain rfl := next
      cases moved <;> exact ⟨rfl, rfl, hub⟩
  | sections expand events current children index supply ih =>
      cases children with
      | cons child children => exact ⟨rfl, rfl, agree⟩
      | nil =>
          cases current with
          | none => exact (ih agree own).stepSections expand events index
          | some marker =>
              exact (ih (agree.announce events .finish marker index) own).stepSections expand
                events (index + 1)
  | sort window held pulling exhausted supply ih =>
      obtain ⟨here, inside⟩ := List.cons_subset.mp own
      have same := agree.window window here
      simp only [step]
      rcases ready?_cases window held pulling (first.window window) with
        none | ⟨item, rest, items, rfl, rfl, -, some⟩
      · rw [none first rfl, none second same]
        cases exhausted with
        | true => exact ⟨rfl, rfl, agree⟩
        | false => exact (ih agree inside).stepSort here held
      · rw [some first rfl, some second same]
        exact ⟨rfl, rfl, agree.setWindow window _⟩

/-- What a pipe becomes has the same windows, so hubs that agree on them still do after a step. -/
theorem step_congr {pipe next : Pipe ω α} {motion : Motion α} {later : Hub α}
    (agree : Hub.Agree pipe.windows first second)
    (moved : pipe.step world first = (motion, next, later)) :
    ∃ otherLater, pipe.step world second = (motion, next, otherLater) ∧
      Hub.Agree next.windows later otherLater := by
  obtain ⟨same, rest, kept⟩ : SameStep pipe.windows (pipe.step world first)
      (pipe.step world second) := sameStep_step agree (List.Subset.refl _)
  have stages := windows_step world pipe first
  generalize pipe.step world second = otherMoved at same rest kept ⊢
  obtain ⟨_, _, otherLater⟩ := otherMoved
  rw [moved] at same rest kept stages
  obtain rfl := same
  obtain rfl := rest
  exact ⟨otherLater, rfl, stages ▸ kept⟩

/-- What a step announces is the same in hubs that agree on the windows of the pipe. -/
theorem announced_congr {pipe : Pipe ω α} (agree : Hub.Agree pipe.windows first second) :
    pipe.announced world second = pipe.announced world first := by
  induction pipe generalizing first second with
  | source readings => rfl
  | script events cues =>
      cases cues with
      | nil => rfl
      | cons cue rest => cases cue <;> rfl
  | map change seen supply ih => exact ih agree
  | select keeps seen supply ih => exact ih agree
  | sections expand events current children index supply ih =>
      cases children with
      | cons child children => rfl
      | nil =>
          cases current with
          | none =>
              have same : SameStep supply.windows (supply.step world first)
                  (supply.step world second) := sameStep_step agree (List.Subset.refl _)
              simp only [announced, ih agree, same.motion]
          | some marker =>
              have ended := agree.announce events .finish marker index
              have same : SameStep supply.windows
                  (supply.step world (first.announce events .finish marker index))
                  (supply.step world (second.announce events .finish marker index)) :=
                sameStep_step ended (List.Subset.refl _)
              simp only [announced, ih ended, same.motion]
  | sort window held pulling exhausted supply ih =>
      have same := agree.window window List.mem_cons_self
      simp only [announced, ih (agree.subset (List.subset_cons_self _ _))]
      rcases ready?_cases window held pulling (first.window window) with
        none | ⟨item, rest, items, rfl, rfl, -, some⟩
      · rw [none first rfl, none second same]
      · rw [some first rfl, some second same]
        rfl

theorem keeps_stepSections (world : ω) (expand : ω → α → Except RouteError (List α))
    (events : EventsId) (index : Nat) (moved : Motion α × Pipe ω α × Hub α) :
    Hub.Keeps moved.2.2 (stepSections world expand events index moved).2.2 := by
  obtain ⟨motion, next, later⟩ := moved
  cases motion with
  | item marker =>
      simp only [stepSections]
      split <;> exact later.keeps_announce _ _ _ _
  | skip => exact Hub.Keeps.refl _
  | done => exact Hub.Keeps.refl _
  | failed error => exact Hub.Keeps.refl _

theorem keeps_stepSort (window : WindowId) (held : Nat) (moved : Motion α × Pipe ω α × Hub α) :
    Hub.Keeps moved.2.2 (stepSort window held moved).2.2 := by
  obtain ⟨motion, next, later⟩ := moved
  cases motion with
  | item value => exact ⟨rfl, rfl⟩
  | skip => exact Hub.Keeps.refl _
  | done =>
      obtain ⟨subscribers, nextWindow⟩ := later.keeps_finishWindow window none
        (later.window window).index
      exact ⟨subscribers, nextWindow⟩
  | failed error => exact Hub.Keeps.refl _

/-- In a step nobody begins to listen, and no window is opened. -/
theorem keeps_step (world : ω) (pipe : Pipe ω α) (hub : Hub α) :
    Hub.Keeps hub (pipe.step world hub).2.2 := by
  induction pipe generalizing hub with
  | source readings => cases readings <;> exact Hub.Keeps.refl _
  | script events cues =>
      cases cues with
      | nil => exact Hub.Keeps.refl _
      | cons cue rest =>
          cases cue with
          | announce border marker index => exact hub.keeps_announce _ _ _ _
          | fail error => exact Hub.Keeps.refl _
          | stop => exact Hub.Keeps.refl _
          | item value => exact Hub.Keeps.refl _
  | map change seen supply ih =>
      rw [hub_step_map]
      exact ih hub
  | select keeps seen supply ih =>
      rw [hub_step_select]
      exact ih hub
  | sections expand events current children index supply ih =>
      cases children with
      | cons child children => exact Hub.Keeps.refl _
      | nil =>
          cases current with
          | none => exact (ih hub).trans (keeps_stepSections _ _ _ _ _)
          | some marker =>
              exact ((hub.keeps_announce _ _ _ _).trans (ih _)).trans
                (keeps_stepSections _ _ _ _ _)
  | sort window held pulling exhausted supply ih =>
      simp only [step]
      rcases ready?_cases window held pulling (hub.window window) with
        none | ⟨item, rest, items, rfl, rfl, -, some⟩
      · rw [none hub rfl]
        cases exhausted with
        | true => exact Hub.Keeps.refl _
        | false => exact (ih hub).trans (keeps_stepSort _ _ _)
      · rw [some hub rfl]
        exact ⟨rfl, rfl⟩

theorem hears_step (world : ω) (pipe : Pipe ω α) (hub : Hub α) :
    (pipe.step world hub).2.2.hears = hub.hears :=
  (keeps_step world pipe hub).hears

theorem window_stepSections (world : ω) (expand : ω → α → Except RouteError (List α))
    (events : EventsId) (index : Nat) (moved : Motion α × Pipe ω α × Hub α) (id : WindowId) :
    (stepSections world expand events index moved).2.2.window id =
      (opening events index moved.1).foldl (Window.attend (moved.2.2.hears id))
        (moved.2.2.window id) := by
  obtain ⟨motion, next, later⟩ := moved
  cases motion with
  | item marker =>
      simp only [stepSections]
      split <;> exact later.window_announce _ _ _ _ id
  | skip => rfl
  | done => rfl
  | failed error => rfl

theorem window_stepSort {window id : WindowId} (different : window ≠ id) (held : Nat)
    (moved : Motion α × Pipe ω α × Hub α) :
    (stepSort window held moved).2.2.window id = moved.2.2.window id := by
  obtain ⟨motion, next, later⟩ := moved
  cases motion with
  | item value => exact later.window_setWindow_of_ne different _
  | skip => rfl
  | done => exact later.window_finishWindow_of_ne different none _
  | failed error => rfl

/-- A window that is none of the pipe's takes in what is announced in a step, and nothing else. -/
theorem window_step (world : ω) {pipe : Pipe ω α} {id : WindowId} (apart : id ∉ pipe.windows)
    (hub : Hub α) :
    (pipe.step world hub).2.2.window id =
      (pipe.announced world hub).foldl (Window.attend (hub.hears id)) (hub.window id) := by
  induction pipe generalizing hub with
  | source readings => cases readings <;> rfl
  | script events cues =>
      cases cues with
      | nil => rfl
      | cons cue rest =>
          cases cue with
          | announce border marker index => exact hub.window_announce _ _ _ _ id
          | fail error => rfl
          | stop => rfl
          | item value => rfl
  | map change seen supply ih =>
      rw [hub_step_map]
      exact ih apart hub
  | select keeps seen supply ih =>
      rw [hub_step_select]
      exact ih apart hub
  | sections expand events current children index supply ih =>
      cases children with
      | cons child children => rfl
      | nil =>
          cases current with
          | none =>
              simp only [step, announced, window_stepSections, hears_step, ih apart,
                List.foldl_append]
          | some marker =>
              simp only [step, announced, window_stepSections, hears_step, ih apart,
                List.foldl_append, List.foldl_cons, Hub.hears_announce, Hub.window_announce]
  | sort window held pulling exhausted supply ih =>
      obtain ⟨different, inside⟩ : id ≠ window ∧ id ∉ supply.windows := by
        simpa [windows] using apart
      simp only [step, announced]
      rcases ready?_cases window held pulling (hub.window window) with
        none | ⟨item, rest, items, rfl, rfl, -, some⟩
      · rw [none hub rfl]
        cases exhausted with
        | true => simp
        | false => simpa [window_stepSort different.symm] using ih inside hub
      · rw [some hub rfl]
        simpa using hub.window_setWindow_of_ne different.symm _

end Pipe

end RoutedGraph
