import RoutedGraph.Proofs.Transaction.Nesting

/-!
# Liveness of handles

A handle works exactly as long as the call that handed it out is running.  The
check looks for the scope of the handle at the depth of the handle, and for its
token; as scopes are numbered in order and never again, a scope that is opened
later at the same depth and under the same token is not mistaken for it.
-/

namespace RoutedGraph

namespace Traffic

variable {traffic : Traffic} {handle other : Handle}

/-- No two calls ever have the same scope. -/
theorem Sound.eq_of_scope (sound : traffic.Sound) (issued : handle ∈ traffic.issued)
    (otherIssued : other ∈ traffic.issued) (same : handle.scope = other.scope) :
    handle = other := by
  have distinct : (traffic.issued.map Handle.scope).Nodup :=
    List.pairwise_map.mpr <| sound.newestFirst.imp fun lower same =>
      absurd (congrArg ScopeId.raw same) (Nat.ne_of_gt lower)
  exact List.inj_on_of_nodup_map distinct issued otherIssued same

theorem isLive_eq (world : World) (handle : Handle) :
    world.isLive handle =
      match world.contextAt? handle.registry handle.key with
      | some context =>
          decide (context.token = some handle.token) && context.isOpen handle.scope handle.depth
      | none => false := rfl

theorem scopes_ofScopes {scopes : List Handle} {context : Context}
    (described : Context.ofScopes scopes = some context) :
    context.scopes = (scopes.map Handle.scope).reverse ∧
      ∃ inner outer, scopes = inner :: outer ∧ context.token = some inner.token := by
  cases scopes with
  | nil => cases described
  | cons inner outer =>
      obtain rfl := Option.some.inj described
      exact ⟨by simp, inner, outer, rfl, rfl⟩

/-- A handle is live exactly if its call is running. -/
theorem Sound.isLive_iff (sound : traffic.Sound) (issued : handle ∈ traffic.issued) :
    traffic.world.isLive handle = true ↔ handle ∈ traffic.running := by
  have stacked := sound.stacked handle.registry handle.key
  rw [isLive_eq, sound.contexts]
  constructor
  · intro live
    split at live
    · next context described =>
        obtain ⟨listed, -⟩ := scopes_ofScopes described
        simp only [Context.isOpen, listed, Bool.and_eq_true, decide_eq_true_eq] at live
        have member := List.mem_of_getElem? live.2.2
        rw [List.mem_reverse] at member
        obtain ⟨found, open', same⟩ := List.mem_map.mp member
        have running := (mem_scopesOf.mp open').1
        rwa [sound.eq_of_scope issued (sound.handedOut.subset running) same.symm]
    · cases live
  · intro running
    have member : handle ∈ traffic.scopesOf handle.registry handle.key :=
      mem_scopesOf.mpr ⟨running, rfl, rfl⟩
    obtain ⟨positive, -, found⟩ := stacked.scopes_at_depth member
    generalize traffic.scopesOf handle.registry handle.key = scopes at stacked member found
    cases scopes with
    | nil => cases member
    | cons inner outer =>
        obtain ⟨listed, -⟩ := scopes_ofScopes (rfl : Context.ofScopes (inner :: outer) = some _)
        rw [← listed] at found
        simp only [Context.ofScopes] at found ⊢
        simp [Context.isOpen, stacked.token_eq member, positive, found]

theorem issued_step (event : Event) (issued : handle ∈ traffic.issued) :
    handle ∈ (traffic.step event).issued := by
  cases event with
  | call thread id nesting =>
      simp only [step, call]
      split
      · exact issued
      · exact List.mem_cons_of_mem _ issued
  | finish thread ending =>
      simp only [step, finish]
      split <;> exact issued
  | request request => exact issued
  | aside after => exact issued

/-- A call that has finished does not run again, whatever happens. -/
theorem Sound.not_running_step (sound : traffic.Sound) (event : Event)
    (issued : handle ∈ traffic.issued) (finished : handle ∉ traffic.running) :
    handle ∉ (traffic.step event).running := by
  cases event with
  | call thread id nesting =>
      simp only [Traffic.step, Traffic.call]
      split
      · exact finished
      · next granted started opened =>
          -- The new scope has a number that no scope had before.
          have scope := (World.bound_openScope opened).scope
          have earlier := sound.numbered handle issued
          simp only [List.mem_cons, not_or]
          refine ⟨?_, finished⟩
          rintro rfl
          rw [scope] at earlier
          exact Nat.lt_irrefl _ earlier
  | finish thread ending =>
      simp only [Traffic.step, Traffic.finish]
      split
      · exact finished
      · exact fun member => finished (List.mem_of_mem_erase member)
  | request request => exact finished
  | aside after => exact finished

theorem Sound.not_running_run (sound : traffic.Sound) {events : List Event}
    (lawful : traffic.Lawful events) (issued : handle ∈ traffic.issued)
    (finished : handle ∉ traffic.running) :
    handle ∈ (traffic.run events).issued ∧ handle ∉ (traffic.run events).running := by
  induction events generalizing traffic with
  | nil => exact ⟨issued, finished⟩
  | cons event rest ih =>
      exact ih (sound.step event lawful.1) lawful.2 (issued_step event issued)
        (sound.not_running_step event issued finished)

/-- A call that is running at the end was running all the time since it started. -/
theorem Sound.running_of_run (sound : traffic.Sound) {events : List Event}
    (lawful : traffic.Lawful events) (issued : handle ∈ traffic.issued)
    (running : handle ∈ (traffic.run events).running) : handle ∈ traffic.running := by
  by_contra finished
  exact (sound.not_running_run lawful issued finished).2 running

end Traffic

/-- A handle that is not live refuses to commit and to roll back, and changes nothing. -/
theorem World.refused_of_not_live {world : World} {handle : Handle}
    (stale : world.isLive handle = false) :
    world.commit handle = (.error (.outsideBlock "commit"), world) ∧
      ∀ message, world.rollback handle message = (.error (.outsideBlock "rollback"), world) := by
  simp [commit, rollback, finishRollback, stale]

/-- Whatever has happened in a world that had no contexts at first, a handle works exactly as long
as the call that handed it out is running.  Once the call has finished, committing and rolling
back through the handle are refused whatever happens later, and change nothing. -/
theorem Traffic.handle_works_iff_running {start : World}
    (unused : ∀ registry key, start.contextAt? registry key = none) {past : List Event}
    (lawful : (Traffic.begin start).Lawful past) {handle : Handle}
    (issued : handle ∈ ((Traffic.begin start).run past).issued) :
    let reached := (Traffic.begin start).run past
    (reached.world.isLive handle = true ↔ handle ∈ reached.running) ∧
      (handle ∈ reached.running →
        reached.world.commit handle = reached.world.commitLive handle ∧
          ∀ message, reached.world.rollback handle message =
            reached.world.rollbackLive handle message false) ∧
      (handle ∉ reached.running → ∀ future, reached.Lawful future →
        let later := reached.run future
        handle ∉ later.running ∧ later.world.isLive handle = false ∧
          later.world.commit handle = (.error (.outsideBlock "commit"), later.world) ∧
          ∀ message, later.world.rollback handle message =
            (.error (.outsideBlock "rollback"), later.world)) := by
  intro reached
  have sound : reached.Sound := Traffic.sound_run unused lawful
  have works := sound.isLive_iff issued
  refine ⟨works, ?_, ?_⟩
  · intro running
    have live := works.mpr running
    simp [World.commit, World.rollback, World.finishRollback, live]
  · intro finished future lawfulFuture later
    obtain ⟨stillIssued, stillFinished⟩ := sound.not_running_run lawfulFuture issued finished
    have stale : later.world.isLive handle = false := by
      rw [← Bool.not_eq_true, (sound.run lawfulFuture).isLive_iff stillIssued]
      exact stillFinished
    exact ⟨stillFinished, stale, World.refused_of_not_live stale⟩

/-- A world with one graph. -/
def loneGraph : World := (World.empty.addGraph true TransactionConfig.standard).2

/-- A thread opens a scope on the graph and, within it, two scopes one after the other. -/
def siblingScopes : List Event :=
  [.call ⟨0⟩ (.graph ⟨1⟩) false, .call ⟨0⟩ (.graph ⟨1⟩) true, .finish ⟨0⟩ (.done ()),
    .call ⟨0⟩ (.graph ⟨1⟩) true]

/-- The handle of the inner scope with a number, which has the token of the outer one. -/
def innerHandle (scope : Nat) : Handle :=
  ⟨.nested, ⟨1⟩, ⟨scope⟩, 2, ⟨⟨0⟩, .graph ⟨1⟩⟩, .graph ⟨1⟩⟩

/-- The handle of the first inner scope is refused while the second one is open at the same depth
and under the same token. -/
theorem Traffic.sibling_does_not_revive :
    let reached := (Traffic.begin loneGraph).run siblingScopes
    innerHandle 3 ∈ reached.running ∧ innerHandle 2 ∈ reached.issued ∧
      innerHandle 2 ∉ reached.running ∧
      reached.world.commit (innerHandle 2) = (.error (.outsideBlock "commit"), reached.world) := by
  intro reached
  have lawful : (Traffic.begin loneGraph).Lawful siblingScopes := by
    simp [siblingScopes, Traffic.Lawful]
  have running : reached.running =
      [innerHandle 3, ⟨.base, ⟨1⟩, ⟨1⟩, 1, ⟨⟨0⟩, .graph ⟨1⟩⟩, .graph ⟨1⟩⟩] := rfl
  have finished : innerHandle 2 ∉ reached.running := by rw [running]; decide
  have issued : innerHandle 2 ∈ reached.issued := .tail _ (.head _)
  obtain ⟨-, -, refused⟩ := Traffic.handle_works_iff_running
    (World.unused_addGraph World.unused_empty true TransactionConfig.standard) lawful issued
  refine ⟨?_, issued, finished, (refused finished [] trivial).2.2.1⟩
  rw [running]
  exact List.mem_cons_self

end RoutedGraph
