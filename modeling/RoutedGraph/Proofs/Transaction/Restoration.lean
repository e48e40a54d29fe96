import Mathlib.Data.List.Infix
import RoutedGraph.Proofs.Transaction.Liveness

/-!
# Restoration of contexts

A transaction call leaves the registries as it found them.  As long as it is
running, the calls that its thread had running before stay running around it;
once it is the innermost call again and finishes, they are what is left, and
the contexts are what they say.
-/

namespace RoutedGraph

namespace Traffic

variable {traffic : Traffic} {handle : Handle} {outer : List Handle} {thread : ThreadId}

/-- The handles of the calls that a thread has running, innermost first. -/
def ofThread (traffic : Traffic) (thread : ThreadId) : List Handle :=
  traffic.running.filter fun handle => decide (handle.key.thread = thread)

theorem head?_ofThread (traffic : Traffic) (thread : ThreadId) :
    (traffic.ofThread thread).head? = traffic.innermost? thread :=
  List.head?_filter

/-- The scopes under a key are among the running calls of its thread. -/
theorem scopesOf_eq_filter (traffic : Traffic) (registry : ManagerId) (key : ContextKey) :
    traffic.scopesOf registry key =
      (traffic.ofThread key.thread).filter
        fun handle => decide (handle.registry = registry ∧ handle.key = key) := by
  simp only [scopesOf, ofThread, List.filter_filter]
  refine List.filter_congr fun handle _ => ?_
  by_cases here : handle.registry = registry ∧ handle.key = key
  · simp [here]
  · simp [here]

theorem ofThread_erase (innermost : traffic.innermost? thread = some handle) (world : World) :
    traffic.ofThread thread =
      handle :: ofThread ⟨world, traffic.running.erase handle, traffic.issued⟩ thread := by
  have own : handle.key.thread = thread := by simpa using List.find?_some innermost
  have shrunk := filter_running_erase innermost
    (fun other => decide (other.key.thread = thread)) (by simp)
  simpa [own, ofThread] using shrunk

theorem ofThread_erase_of_ne {caller : ThreadId}
    (innermost : traffic.innermost? caller = some handle) (different : caller ≠ thread)
    (world : World) :
    traffic.ofThread thread =
      ofThread ⟨world, traffic.running.erase handle, traffic.issued⟩ thread := by
  have own : handle.key.thread = caller := by simpa using List.find?_some innermost
  have foreign : decide (handle.key.thread = thread) = false := by simp [own, different]
  have shrunk := filter_running_erase innermost
    (fun other => decide (other.key.thread = thread)) (by simp [own, different])
  rw [foreign] at shrunk
  exact shrunk

/-- As long as a call is running, so are the calls around it. -/
theorem Sound.suffix_step (sound : traffic.Sound) (event : Event)
    (running : handle ∈ (traffic.step event).running)
    (around : handle :: outer <:+ traffic.ofThread thread) :
    handle :: outer <:+ (traffic.step event).ofThread thread := by
  cases event with
  | call caller id nesting =>
      simp only [Traffic.step, Traffic.call]
      split
      · exact around
      · simp only [ofThread, List.filter_cons]
        split
        · exact around.trans (List.suffix_cons _ _)
        · exact around
  | finish caller ending =>
      unfold Traffic.step Traffic.finish at running ⊢
      dsimp only at running ⊢
      split
      · exact around
      · next finished innermost =>
          simp only [innermost] at running
          generalize ((traffic.world.conclude finished ending).2.leave finished.registry
            finished.key) = after
          by_cases same : caller = thread
          · rw [same] at innermost
            rw [ofThread_erase innermost after] at around
            rcases List.suffix_cons_iff.mp around with whole | inside
            · rw [List.cons.injEq] at whole
              rw [whole.1] at running
              exact absurd running sound.nodup_running.not_mem_erase
            · exact inside
          · rwa [ofThread_erase_of_ne innermost same after] at around
  | request request => exact around
  | aside after => exact around

theorem Sound.suffix_run (sound : traffic.Sound) {events : List Event}
    (lawful : traffic.Lawful events) (issued : handle ∈ traffic.issued)
    (running : handle ∈ (traffic.run events).running)
    (around : handle :: outer <:+ traffic.ofThread thread) :
    handle :: outer <:+ (traffic.run events).ofThread thread := by
  induction events generalizing traffic with
  | nil => exact around
  | cons event rest ih =>
      have next := sound.step event lawful.1
      have stillIssued := issued_step event issued
      exact ih next lawful.2 stillIssued running
        (sound.suffix_step event (next.running_of_run lawful.2 stillIssued running) around)

/-- When a call is the innermost one of its thread again, its thread has the calls running that it
had when the call started. -/
theorem Sound.ofThread_run (sound : traffic.Sound) {events : List Event}
    (lawful : traffic.Lawful events) (issued : handle ∈ traffic.issued)
    (started : traffic.ofThread thread = handle :: outer)
    (innermost : (traffic.run events).innermost? thread = some handle) :
    (traffic.run events).ofThread thread = handle :: outer := by
  have running : handle ∈ (traffic.run events).running := List.mem_of_find?_eq_some innermost
  have around := sound.suffix_run lawful issued running ⟨[], started.symm⟩
  have first := head?_ofThread (traffic.run events) thread
  have nodup : ((traffic.run events).ofThread thread).Nodup :=
    (sound.run lawful).nodup_running.filter _
  rw [innermost] at first
  generalize (traffic.run events).ofThread thread = calls at around first nodup
  cases calls with
  | nil => cases first
  | cons newest rest =>
      obtain rfl := Option.some.inj first
      rcases List.suffix_cons_iff.mp around with whole | inside
      · exact whole.symm
      · -- The call cannot also be one of the calls around itself.
        exact absurd (inside.subset List.mem_cons_self) (List.nodup_cons.mp nodup).1

/-- The contexts of a thread are what its running calls say. -/
theorem Sound.contextAt?_eq (sound : traffic.Sound) {later : Traffic} (laterSound : later.Sound)
    (same : later.ofThread thread = traffic.ofThread thread) (registry : ManagerId)
    {key : ContextKey} (own : key.thread = thread) :
    later.world.contextAt? registry key = traffic.world.contextAt? registry key := by
  rw [sound.contexts, laterSound.contexts, scopesOf_eq_filter, scopesOf_eq_filter, own, same]

/-- A call that starts finishes with the contexts of its thread as they were. -/
theorem Sound.contextAt?_finish (sound : traffic.Sound) {id : ManagerId} {nesting : Bool}
    {started : World} (opened : traffic.world.openScope thread id nesting = (.ok handle, started))
    {body : List Event} (lawful : (traffic.step (.call thread id nesting)).Lawful body)
    (innermost : ((traffic.step (.call thread id nesting)).run body).innermost? thread =
      some handle)
    (ending : Outcome Unit) (registry : ManagerId) {key : ContextKey}
    (own : key.thread = thread) :
    (((traffic.step (.call thread id nesting)).run body).step
        (.finish thread ending)).world.contextAt? registry key =
      traffic.world.contextAt? registry key := by
  have called := step_call_of_opened opened
  have calledSound := sound.call thread id nesting
  have keyThread : handle.key.thread = thread := by
    rw [(World.bound_openScope opened).key]
    rfl
  rw [show traffic.call thread id nesting = _ from called] at calledSound
  rw [called] at lawful innermost ⊢
  have first : ofThread ⟨started, handle :: traffic.running, handle :: traffic.issued⟩ thread =
      handle :: traffic.ofThread thread := by
    simp [ofThread, keyThread]
  have around := calledSound.ofThread_run lawful List.mem_cons_self first innermost
  have left := calledSound.run lawful
  generalize Traffic.run ⟨started, handle :: traffic.running, handle :: traffic.issued⟩ body = ended
    at innermost around left ⊢
  refine sound.contextAt?_eq (left.step (.finish thread ending) (by simp)) ?_ registry own
  simp only [Traffic.step, Traffic.finish, innermost]
  rw [ofThread_erase innermost] at around
  exact List.cons.inj around |>.2

/-- Whatever has happened in a world that had no contexts at first, all contexts are those of nested
scopes; a transaction call that is refused leaves all contexts as they were; and one that starts
finishes, however its body ends and whatever happens meanwhile, with the contexts of its thread as
they were. -/
theorem call_restores_contexts {start : World}
    (unused : ∀ registry key, start.contextAt? registry key = none) {past : List Event}
    (lawful : (begin start).Lawful past) :
    let reached := (begin start).run past
    (∀ registry key context, reached.world.contextAt? registry key = some context →
        context.Nested) ∧
      ∀ thread id nesting,
        let called := reached.step (.call thread id nesting)
        (∀ error refused, reached.world.openScope thread id nesting = (.error error, refused) →
          ∀ registry key,
            called.world.contextAt? registry key = reached.world.contextAt? registry key) ∧
        (∀ handle started, reached.world.openScope thread id nesting = (.ok handle, started) →
          ∀ body, called.Lawful body → (called.run body).innermost? thread = some handle →
            ∀ ending registry key, key.thread = thread →
              ((called.run body).step (.finish thread ending)).world.contextAt? registry key =
                reached.world.contextAt? registry key) := by
  intro reached
  have sound : reached.Sound := sound_run unused lawful
  refine ⟨?_, fun thread id nesting => ⟨?_, ?_⟩⟩
  · intro registry key context found
    rw [sound.contexts] at found
    exact (sound.stacked registry key).nested found
  · intro error refused opened registry key
    simp only [Traffic.step, Traffic.call, opened]
    exact sound.contextAt?_refused opened registry key
  · intro handle started opened body bodyLawful innermost ending registry key own
    exact sound.contextAt?_finish opened bodyLawful innermost ending registry own

/-- The context of an outermost scope on the graph, the first scope there is. -/
def firstContext : Context := ⟨1, some ⟨1⟩, [.base], [⟨1⟩]⟩

/-- Within an outermost scope, a call is refused and another one panics after a commit: both leave
the context of the outermost scope. -/
theorem inner_calls_leave_firstContext :
    let outermost := (begin loneGraph).run [.call ⟨0⟩ (.graph ⟨1⟩) false]
    let inner := (outermost.step (.call ⟨0⟩ (.graph ⟨1⟩) true)).run
      [.request (.commit (innerHandle 2))]
    outermost.world.contextAt? (.graph ⟨1⟩) ⟨⟨0⟩, .graph ⟨1⟩⟩ = some firstContext ∧
      (outermost.step (.call ⟨0⟩ (.graph ⟨1⟩) false)).world.contextAt? (.graph ⟨1⟩)
        ⟨⟨0⟩, .graph ⟨1⟩⟩ = some firstContext ∧
      (inner.step (.finish ⟨0⟩ (.panicked "stop"))).world.contextAt? (.graph ⟨1⟩)
        ⟨⟨0⟩, .graph ⟨1⟩⟩ = some firstContext := by
  intro outermost inner
  have lawful : (begin loneGraph).Lawful [.call ⟨0⟩ (.graph ⟨1⟩) false] := by simp [Lawful]
  obtain ⟨-, restores⟩ := call_restores_contexts
    (World.unused_addGraph World.unused_empty true TransactionConfig.standard) lawful
  obtain ⟨refused, -⟩ := restores ⟨0⟩ (.graph ⟨1⟩) false
  obtain ⟨-, finished⟩ := restores ⟨0⟩ (.graph ⟨1⟩) true
  have found : outermost.world.contextAt? (.graph ⟨1⟩) ⟨⟨0⟩, .graph ⟨1⟩⟩ = some firstContext := rfl
  refine ⟨found, (refused _ _ rfl (.graph ⟨1⟩) ⟨⟨0⟩, .graph ⟨1⟩⟩).trans found, ?_⟩
  exact (finished (innerHandle 2) _ rfl [.request (.commit (innerHandle 2))] (by simp [Lawful]) rfl
    (.panicked "stop") (.graph ⟨1⟩) ⟨⟨0⟩, .graph ⟨1⟩⟩ rfl).trans found

end Traffic

end RoutedGraph
