import RoutedGraph.Proofs.Pipe.Stages

/-!
# The transcript of a sorting stage

A sorting stage moves its supply while nothing is ready.  What is announced
meanwhile passes at once, and so may overtake items that wait in the window;
what has become ready follows when the supply has brought its next item, has
failed or has reached its end.
-/

namespace RoutedGraph

variable {ω α : Type}

namespace Window

variable (window : Window α) (hears : EventsId → Bool)

/-- What is ready has been passed on. -/
def drained : Window α := { window with ready := [] }

/-- The moments of a stage that sorts in a window. -/
def relay (window : Window α) : List (Moment α) → List (Moment α)
  | [] => (window.finish none window.index).ready.map .item
  | .announced call :: rest => .announced call :: relay (window.attend hears call) rest
  | .item value :: rest => window.ready.map .item ++ relay (window.drained.push value) rest
  | .failed error :: rest => .failed error :: (window.ready.map .item ++ relay window.drained rest)

theorem relay_announcements (calls : List (Announcement α)) (rest : List (Moment α)) :
    window.relay hears (calls.map .announced ++ rest) =
      calls.map .announced ++ (calls.foldl (attend hears) window).relay hears rest := by
  induction calls generalizing window with
  | nil => rfl
  | cons call calls ih => exact congrArg (.announced call :: ·) (ih _)

/-- The number of items in a window. -/
def load : Nat := window.ready.length + window.pending.length

/-- Nothing that is announced adds items to a window. -/
theorem load_attend (call : Announcement α) : (window.attend hears call).load ≤ window.load := by
  unfold attend
  split
  · obtain ⟨events, border, marker, index⟩ := call
    cases border with
    | start => simp [hear, start, load]
    | finish => simp [hear, finish, load, Sorter.sort]
  · exact Nat.le_refl _

theorem load_foldl (calls : List (Announcement α)) :
    (calls.foldl (attend hears) window).load ≤ window.load := by
  induction calls generalizing window with
  | nil => exact Nat.le_refl _
  | cons call calls ih => exact Nat.le_trans (ih _) (window.load_attend hears call)

end Window

namespace Pipe

variable {world : ω} {supply : Pipe ω α} {hub : Hub α} {window : WindowId}

/-- An item that is ready is passed on before anything else happens. -/
theorem transcript_sort_pop {item : α} {items : List α}
    (listed : (hub.window window).ready = item :: items) (rest : Nat) (exhausted : Bool) :
    (sort window (rest + 1) false exhausted supply).transcript world hub =
      .item item ::
        (sort window rest false exhausted supply).transcript world
          (hub.setWindow window { hub.window window with ready := items }) := by
  have found : ready? window (rest + 1) false hub =
      some (item, rest, hub.setWindow window { hub.window window with ready := items }) := by
    simp [ready?, Hub.pop?, listed]
  rw [transcript_eq]
  simp [announced, step, found]

theorem ready?_of_empty (empty : (hub.window window).ready = []) (held : Nat) (pulling : Bool) :
    ready? window held pulling hub = none := by
  cases held with
  | zero => rfl
  | succ rest =>
      cases pulling with
      | true => rfl
      | false => simp [ready?, Hub.pop?, empty]

/-- Writing back what a window contains changes nothing. -/
theorem transcript_setWindow_same (pipe : Pipe ω α) {content : Window α}
    (same : hub.window window = content) :
    pipe.transcript world (hub.setWindow window content) = pipe.transcript world hub := by
  refine transcript_congr ⟨fun _ _ => rfl, fun id _ => ?_⟩
  by_cases here : window = id
  · subst here
    rw [Hub.window_setWindow_self, same]
  · exact hub.window_setWindow_of_ne here content

/-- Of two contents that are written, the second remains. -/
theorem transcript_setWindow_twice (pipe : Pipe ω α) (former latter : Window α) :
    pipe.transcript world ((hub.setWindow window former).setWindow window latter) =
      pipe.transcript world (hub.setWindow window latter) := by
  refine transcript_congr ⟨fun _ _ => rfl, fun id _ => ?_⟩
  by_cases here : window = id
  · subst here
    simp
  · simp [Hub.window_setWindow_of_ne _ here]

/-- Everything that is ready is passed on before anything else happens. -/
theorem transcript_sort_ready {held : Nat} (room : (hub.window window).ready.length ≤ held)
    (exhausted : Bool) :
    (sort window held false exhausted supply).transcript world hub =
      (hub.window window).ready.map .item ++
        (sort window (held - (hub.window window).ready.length) false exhausted supply).transcript
          world (hub.setWindow window (hub.window window).drained) := by
  generalize content : hub.window window = filled at room ⊢
  obtain ⟨index, pending, ready, sorter⟩ := filled
  induction ready generalizing hub held with
  | nil => exact (transcript_setWindow_same _ content).symm
  | cons item items ih =>
      cases held with
      | zero => simp at room
      | succ rest =>
          have listed : (hub.window window).ready = item :: items := by rw [content]
          have less : items.length ≤ rest := by simpa using room
          rw [transcript_sort_pop listed, content, ih (hub.window_setWindow_self window _) less,
            transcript_setWindow_twice]
          simp [Window.drained]

/-- Nothing is passed on while nothing is ready, whether the supply has been moved or not. -/
theorem transcript_sort_pulling (empty : (hub.window window).ready = []) (held : Nat) :
    (sort window held false false supply).transcript world hub =
      (sort window held true false supply).transcript world hub := by
  rw [transcript_eq, transcript_eq]
  simp [announced, step, ready?_of_empty empty]

/-- When the supply has reached its end, nothing follows what is ready. -/
theorem transcript_sort_exhausted {held : Nat} (room : (hub.window window).ready.length ≤ held) :
    (sort window held false true supply).transcript world hub =
      (hub.window window).ready.map .item := by
  rw [transcript_sort_ready room, transcript_eq]
  simp [announced, step, ready?_of_empty, Window.drained]

/-- What a sorting stage still does once its supply has answered, before it moves it again. -/
theorem transcript_sort_answered {held : Nat} (room : (hub.window window).ready.length ≤ held) :
    (sort window held false false supply).transcript world hub =
      (hub.window window).ready.map .item ++
        (sort window (held - (hub.window window).ready.length) true false supply).transcript
          world (hub.setWindow window (hub.window window).drained) := by
  rw [transcript_sort_ready room, transcript_sort_pulling]
  simp [Window.drained]

/-- A step of the supply, as a window finds it that is none of the supply's. -/
theorem step_apart {first second later : Hub α} {next : Pipe ω α} {motion : Motion α}
    (apart : window ∉ supply.windows) (agree : Hub.Agree supply.windows first second)
    {held : Nat} (room : (second.window window).load ≤ held)
    (moved : supply.step world first = (motion, next, later)) :
    ∃ otherLater, supply.step world second = (motion, next, otherLater) ∧
      window ∉ next.windows ∧ Hub.Agree next.windows later otherLater ∧
      otherLater.hears window = second.hears window ∧
      otherLater.window window =
        (supply.announced world first).foldl (Window.attend (second.hears window))
          (second.window window) ∧
      (otherLater.window window).load ≤ held := by
  obtain ⟨otherLater, same, kept⟩ := step_congr agree moved
  have stages := windows_step world supply first
  have heard := hears_step world supply second
  have taken := window_step world apart second
  rw [moved] at stages
  rw [same] at heard
  rw [same, announced_congr agree] at taken
  refine ⟨otherLater, same, stages ▸ apart, kept, congrFun heard window, taken, ?_⟩
  rw [taken]
  exact Nat.le_trans (Window.load_foldl _ _ _) room

/-- What a sorting stage does when it moves its supply. -/
theorem transcript_sort_eq (held : Nat) :
    (sort window held true false supply).transcript world hub =
      (supply.announced world hub).map .announced ++
        match supply.step world hub with
        | (.item value, next, later) =>
            (sort window (held + 1) false false next).transcript world (later.push window value)
        | (.skip, next, later) => (sort window held true false next).transcript world later
        | (.done, next, later) =>
            (sort window held false true next).transcript world
              (later.finishWindow window none (later.window window).index)
        | (.failed error, next, later) =>
            .failed error :: (sort window held false false next).transcript world later := by
  have waiting : ready? window held true hub = none := by cases held <;> rfl
  rw [transcript_eq]
  simp only [announced, step, waiting]
  obtain ⟨motion, next, later⟩ := supply.step world hub
  cases motion with
  | item value => simp [stepSort]
  | skip => simp [stepSort]
  | done =>
      -- The log says that the supply has reached its end, and no window reads the log.
      simp only [stepSort]
      exact congrArg _ (transcript_congr ⟨fun _ _ => rfl, fun _ _ => rfl⟩)
  | failed error => simp [stepSort]

/-- While a sorting stage moves its supply, its transcript is what the window makes of that of the
supply, which may be thought of as moving in a hub of its own. -/
def Relays (world : ω) (window : WindowId) (supply : Pipe ω α) (first : Hub α) : Prop :=
  ∀ (second : Hub α) (held : Nat), Hub.Agree supply.windows first second →
    (second.window window).load ≤ held →
    (sort window held true false supply).transcript world second =
      (second.window window).relay (second.hears window) (supply.transcript world first)

/-- What is ready comes before what the supply does next. -/
theorem Relays.answered {first second : Hub α} (relays : Relays world window supply first)
    (apart : window ∉ supply.windows) (agree : Hub.Agree supply.windows first second) {held : Nat}
    (room : (second.window window).load ≤ held) :
    (sort window held false false supply).transcript world second =
      (second.window window).ready.map .item ++
        (second.window window).drained.relay (second.hears window)
          (supply.transcript world first) := by
  have ready : (second.window window).ready.length ≤ held :=
    Nat.le_trans (Nat.le_add_right _ _) room
  have left : (second.window window).drained.load ≤
      held - (second.window window).ready.length := by
    simp only [Window.load, Window.drained, List.length_nil] at room ⊢
    omega
  rw [transcript_sort_answered ready,
    relays _ _ (agree.trans (Hub.agree_setWindow second apart _)) (by simpa using left),
    Hub.window_setWindow_self]
  rfl

theorem relays (apart : window ∉ supply.windows) (first : Hub α) :
    Relays world window supply first := by
  -- Along the transcript of the supply.  That the stage does not lose count of what it holds needs
  -- the load of the window to stay within `held`.
  induction supply, first using transcript.induct world with
  | case1 supply first value next later moved ih =>
      intro second held agree room
      obtain ⟨otherLater, same, stillApart, kept, heard, taken, less⟩ :=
        step_apart apart agree room moved
      have content : (otherLater.push window value).window window =
          (otherLater.window window).push value := Hub.window_setWindow_self _ _ _
      have more : ((otherLater.push window value).window window).load ≤ held + 1 := by
        rw [content]
        simp only [Window.load, Window.push, List.length_append, List.length_singleton] at less ⊢
        omega
      have onward : Hub.Agree next.windows later (otherLater.push window value) :=
        kept.trans (Hub.agree_setWindow otherLater stillApart _)
      rw [transcript_sort_eq, transcript_eq world supply, moved, same, announced_congr agree,
        Window.relay_announcements, ← taken, ← heard]
      simp only [Window.relay]
      rw [(ih stillApart).answered stillApart onward more, content]
      rfl
  | case2 supply first next later moved ih =>
      intro second held agree room
      obtain ⟨otherLater, same, stillApart, kept, heard, taken, less⟩ :=
        step_apart apart agree room moved
      rw [transcript_sort_eq, transcript_eq world supply, moved, same, announced_congr agree,
        Window.relay_announcements, ← taken, ← heard]
      exact congrArg _ (ih stillApart _ _ kept less)
  | case3 supply first next later moved =>
      intro second held agree room
      obtain ⟨otherLater, same, stillApart, kept, heard, taken, less⟩ :=
        step_apart apart agree room moved
      rw [transcript_sort_eq, transcript_eq world supply, moved, same, announced_congr agree,
        Window.relay_announcements, ← taken, ← heard]
      simp only [Window.relay]
      rw [transcript_sort_exhausted, Hub.window_finishWindow_self]
      rw [Hub.window_finishWindow_self]
      simpa [Window.finish, Window.load, Sorter.sort] using less
  | case4 supply first error next later moved ih =>
      intro second held agree room
      obtain ⟨otherLater, same, stillApart, kept, heard, taken, less⟩ :=
        step_apart apart agree room moved
      rw [transcript_sort_eq, transcript_eq world supply, moved, same, announced_congr agree,
        Window.relay_announcements, ← taken, ← heard]
      simp only [Window.relay]
      rw [(ih stillApart).answered stillApart kept less]

/-- The transcript of a sorting stage whose window is fresh. -/
theorem transcript_sort {hub : Hub α} (apart : window ∉ supply.windows) {sorter : Sorter α}
    (fresh : hub.window window = Window.fresh sorter) :
    (sort window 0 false false supply).transcript world hub =
      (Window.fresh sorter).relay (hub.hears window) (supply.transcript world hub) := by
  rw [transcript_sort_pulling (by rw [fresh]; rfl),
    relays apart hub _ _ (Hub.Agree.refl _ _) (by rw [fresh]; exact Nat.le_refl 0), fresh]

end Pipe

end RoutedGraph
