import RoutedGraph.Proofs.Transaction.Liveness

/-!
# Tokens

An outermost call mints a token, and the calls nested in it inherit the token
from the context under their key.  Two handles have one token exactly if their
calls were made within the same outermost call, whichever managers they went
through; a token is never seen again in a call that is made after the outermost
call has finished.
-/

namespace RoutedGraph

namespace World

variable {world started : World} {thread : ThreadId} {id : ManagerId} {nesting : Bool}
  {handle : Handle}

theorem sameTokens_frame :
    BoundaryFrame fun before after => after.nextToken = before.nextToken where
  refl _ := rfl
  trans first second := second.trans first
  emit _ _ := rfl
  commitAll world resource := by cases resource <;> rfl
  abortAll world resource := by
    cases resource with
    | graph id =>
        unfold abortAll
        dsimp only
        split <;> rfl
    | external number => rfl

theorem nextToken_perform (world : World) (request : BoundaryRequest) :
    (request.perform world).2.nextToken = world.nextToken := by
  cases request with
  | commit handle => exact sameTokens_frame.commit world handle
  | rollback handle message => exact sameTokens_frame.finishRollback world handle message false
  | commitImplicit id => exact sameTokens_frame.commitAll world _
  | rollbackImplicit id => exact sameTokens_frame.abortAll world _
  | closeImplicit id => exact sameTokens_frame.closeImplicit world id

/-- A token is inherited, or it is new. -/
theorem nextToken_le_minted (world : World) (thread : ThreadId) (id : ManagerId) :
    world.nextToken ≤ (world.minted thread id).2.nextToken := by
  unfold minted takeToken
  split
  · exact Nat.le_refl _
  · exact Nat.le_succ _

theorem minted_outermost (outermost : world.depth thread id = 0) :
    (world.minted thread id).1 = ⟨world.nextToken⟩ ∧
      (world.minted thread id).2.nextToken = world.nextToken + 1 := by
  unfold minted
  rw [outermost]
  exact ⟨rfl, rfl⟩

theorem nextToken_le_openScope (world : World) (thread : ThreadId) (id : ManagerId)
    (nesting : Bool) : world.nextToken ≤ (world.openScope thread id nesting).2.nextToken := by
  rw [openScope_eq]
  split
  · exact Nat.le_refl _
  · next strategy selected =>
      have closed := sameTokens_frame.closeFor (world.minted thread id).2 id strategy
      have reached := closed.symm ▸ world.nextToken_le_minted thread id
      dsimp only
      split
      · exact reached
      · exact reached

/-- An outermost call that starts has a new token. -/
theorem openScope_outermost_token
    (opened : world.openScope thread id nesting = (.ok handle, started))
    (outermost : world.depth thread id = 0) :
    handle.token = ⟨world.nextToken⟩ ∧ started.nextToken = world.nextToken + 1 := by
  obtain ⟨fresh, counted⟩ := minted_outermost outermost
  rw [openScope_eq] at opened
  split at opened
  · cases (Prod.mk.inj opened).1
  · next strategy selected =>
      have closed := sameTokens_frame.closeFor (world.minted thread id).2 id strategy
      dsimp only at opened
      split at opened
      · cases (Prod.mk.inj opened).1
      · obtain ⟨granted, rfl⟩ := Prod.mk.inj opened
        obtain rfl := Except.ok.inj granted
        exact ⟨fresh, closed.trans counted⟩

end World

/-- There is a scope around all the others, and it is at depth one. -/
theorem Stacked.depth_getLast? {scopes : List Handle} (stacked : Stacked scopes) {outer : Handle}
    (last : scopes.getLast? = some outer) : outer.depth = 1 := by
  induction stacked with
  | none => cases last
  | @within around stacked inner depth strategy token ih =>
      cases around with
      | nil =>
          obtain rfl := Option.some.inj last
          exact depth
      | cons next rest => exact ih (by rwa [List.getLast?_cons_cons] at last)

namespace Traffic

/-- Tokens are numbered in order: what happens aside takes no number back. -/
def CountsTokens (traffic : Traffic) : List Event → Prop
  | [] => True
  | event :: rest =>
      (∀ after, event = .aside after → traffic.world.nextToken ≤ after.nextToken) ∧
        (traffic.step event).CountsTokens rest

/-- The outermost of the calls that are running under the registry and the key of a handle. -/
def outermost? (traffic : Traffic) (handle : Handle) : Option Handle :=
  (traffic.scopesOf handle.registry handle.key).getLast?

/-- A call that started in the course of some events, given by its handle, was made within another
one, or is itself the outermost call. -/
def OpenedWithin (traffic : Traffic) (events : List Event) (handle outermost : Handle) : Prop :=
  ∃ earlier thread id nesting later,
    events = earlier ++ .call thread id nesting :: later ∧
    (∃ started, (traffic.run earlier).world.openScope thread id nesting = (.ok handle, started)) ∧
    ((traffic.run earlier).step (.call thread id nesting)).outermost? handle = some outermost

variable {traffic : Traffic} {thread : ThreadId} {id : ManagerId} {nesting : Bool}
  {handle outer : Handle} {events : List Event} {started : World}

theorem countsTokens_append {first second : List Event} :
    traffic.CountsTokens (first ++ second) ↔
      traffic.CountsTokens first ∧ (traffic.run first).CountsTokens second := by
  induction first generalizing traffic with
  | nil => simp [CountsTokens]
  | cons event rest ih => simp [CountsTokens, ih, and_assoc]

theorem issued_run (events : List Event) (issued : handle ∈ traffic.issued) :
    handle ∈ (traffic.run events).issued := by
  induction events generalizing traffic with
  | nil => exact issued
  | cons event rest ih => exact ih (issued_step event issued)

/-- Every handle that has been handed out was handed out by a call. -/
theorem call_of_issued (issued : handle ∈ (traffic.run events).issued) :
    handle ∈ traffic.issued ∨
      ∃ earlier thread id nesting later,
        events = earlier ++ .call thread id nesting :: later ∧
        ∃ started,
          (traffic.run earlier).world.openScope thread id nesting = (.ok handle, started) := by
  induction events generalizing traffic with
  | nil => exact .inl issued
  | cons event rest ih =>
      rcases ih issued with before | ⟨earlier, thread, id, nesting, later, rfl, opened⟩
      · cases event with
        | call thread id nesting =>
            cases opening : traffic.world.openScope thread id nesting with
            | mk result started =>
                cases result with
                | error error =>
                    simp only [Traffic.step, Traffic.call, opening] at before
                    exact .inl before
                | ok granted =>
                    rw [step_call_of_opened opening] at before
                    rcases List.mem_cons.mp before with rfl | older
                    · exact .inr ⟨[], thread, id, nesting, rest, rfl, started, opening⟩
                    · exact .inl older
        | finish thread ending =>
            simp only [Traffic.step, Traffic.finish] at before
            split at before <;> exact .inl before
        | request request => exact .inl before
        | aside after => exact .inl before
      · exact .inr ⟨event :: earlier, thread, id, nesting, later, rfl, opened⟩

/-- A call lies on top of those that are running under its key. -/
theorem scopesOf_call (opened : traffic.world.openScope thread id nesting = (.ok handle, started)) :
    (traffic.step (.call thread id nesting)).scopesOf handle.registry handle.key =
      handle :: traffic.scopesOf handle.registry handle.key := by
  rw [step_call_of_opened opened, scopesOf_cons, if_pos ⟨rfl, rfl⟩]
  rfl

/-- An outermost call shares its registry, its key and its token with the calls within it. -/
structure Outermost (handle outer : Handle) : Prop where
  registry : outer.registry = handle.registry
  key : outer.key = handle.key
  token : outer.token = handle.token
  depth : outer.depth = 1

theorem exists_outermost?_call
    (opened : traffic.world.openScope thread id nesting = (.ok handle, started)) :
    ∃ outer, (traffic.step (.call thread id nesting)).outermost? handle = some outer := by
  rw [outermost?, scopesOf_call opened, List.getLast?_cons]
  exact ⟨_, rfl⟩

theorem Sound.outermost?_call (sound : traffic.Sound)
    (opened : traffic.world.openScope thread id nesting = (.ok handle, started))
    (outermost : (traffic.step (.call thread id nesting)).outermost? handle = some outer) :
    outer ∈ (traffic.step (.call thread id nesting)).running ∧ Outermost handle outer := by
  have stacked := (sound.step (.call thread id nesting) (by simp)).stacked handle.registry
    handle.key
  obtain ⟨running, registry, key⟩ := mem_scopesOf.mp (List.mem_of_getLast? outermost)
  have among := List.mem_of_getLast? outermost
  have depth := stacked.depth_getLast? outermost
  rw [scopesOf_call opened] at stacked among
  exact ⟨running, registry, key, stacked.token_eq among, depth⟩

/-- A call at depth one is itself the outermost one. -/
theorem Sound.outermost?_call_self (sound : traffic.Sound)
    (opened : traffic.world.openScope thread id nesting = (.ok handle, started))
    (outermost : handle.depth = 1) :
    (traffic.step (.call thread id nesting)).outermost? handle = some handle := by
  have bound := World.bound_openScope opened
  have depth := bound.depth
  rw [sound.enclosing, Context.depth_ofScopes, ← bound.registry, ← bound.key] at depth
  have alone : traffic.scopesOf handle.registry handle.key = [] :=
    List.length_eq_zero_iff.mp (by omega)
  rw [outermost?, scopesOf_call opened, alone]
  rfl

theorem OpenedWithin.outermost (opened : traffic.OpenedWithin events handle outer)
    (sound : traffic.Sound) (lawful : traffic.Lawful events) :
    outer ∈ (traffic.run events).issued ∧ Outermost handle outer := by
  obtain ⟨earlier, thread, id, nesting, later, rfl, ⟨started, granted⟩, outermost⟩ := opened
  obtain ⟨before, after⟩ := lawful_append.mp lawful
  have reached := sound.run before
  obtain ⟨running, facts⟩ := reached.outermost?_call granted outermost
  have next := reached.step (.call thread id nesting) after.1
  rw [run_append, run_cons]
  exact ⟨issued_run later (next.handedOut.subset running), facts⟩

theorem OpenedWithin.append (opened : traffic.OpenedWithin events handle outer)
    (more : List Event) : traffic.OpenedWithin (events ++ more) handle outer := by
  obtain ⟨earlier, thread, id, nesting, later, rfl, granted⟩ := opened
  exact ⟨earlier, thread, id, nesting, later ++ more, by simp, granted⟩

theorem OpenedWithin.after {past : List Event}
    (opened : (traffic.run past).OpenedWithin events handle outer) :
    traffic.OpenedWithin (past ++ events) handle outer := by
  obtain ⟨earlier, thread, id, nesting, later, rfl, granted⟩ := opened
  rw [← run_append] at granted
  exact ⟨past ++ earlier, thread, id, nesting, later, by simp, granted⟩

/-- Every call was made within an outermost one, which was made within itself. -/
theorem Sound.openedWithin (sound : traffic.Sound) (lawful : traffic.Lawful events)
    (fresh : handle ∉ traffic.issued) (issued : handle ∈ (traffic.run events).issued) :
    ∃ outer, traffic.OpenedWithin events handle outer ∧ (handle.depth = 1 → outer = handle) := by
  rcases call_of_issued issued with older | ⟨earlier, thread, id, nesting, later, rfl, started,
    granted⟩
  · exact absurd older fresh
  · have reached := sound.run (lawful_append.mp lawful).1
    obtain ⟨outer, found⟩ := exists_outermost?_call granted
    refine ⟨outer, ⟨earlier, thread, id, nesting, later, rfl, ⟨started, granted⟩, found⟩, ?_⟩
    intro depth
    have itself := reached.outermost?_call_self granted depth
    exact Option.some.inj (found.symm.trans itself)

/-- A call is made within an outermost one that is running, so not within one that has finished. -/
theorem Sound.not_openedWithin_of_finished (sound : traffic.Sound) (lawful : traffic.Lawful events)
    (issued : outer ∈ traffic.issued) (finished : outer ∉ traffic.running) :
    ¬ traffic.OpenedWithin events handle outer := by
  rintro ⟨earlier, thread, id, nesting, later, rfl, ⟨started, granted⟩, outermost⟩
  obtain ⟨before, after⟩ := lawful_append.mp lawful
  have reached := sound.run before
  obtain ⟨running, -⟩ := reached.outermost?_call granted outermost
  obtain ⟨stillIssued, stillFinished⟩ := sound.not_running_run before issued finished
  exact reached.not_running_step (.call thread id nesting) stillIssued stillFinished running

/-- Tokens are numbered in order, and no two outermost calls have the same. -/
structure Tokened (traffic : Traffic) : Prop where
  numbered : ∀ handle ∈ traffic.issued, handle.token.raw < traffic.world.nextToken
  distinct : ∀ first ∈ traffic.issued, ∀ second ∈ traffic.issued,
    first.depth = 1 → second.depth = 1 → first.token = second.token → first = second

theorem Tokened.withWorld (tokened : traffic.Tokened) {after : World}
    (counted : traffic.world.nextToken ≤ after.nextToken) : (traffic.withWorld after).Tokened where
  numbered handle member := Nat.lt_of_lt_of_le (tokened.numbered handle member) counted
  distinct := tokened.distinct

/-- The token of a call that starts was minted for it, or belongs to a running call. -/
theorem Tokened.token_call (tokened : traffic.Tokened) (sound : traffic.Sound)
    (opened : traffic.world.openScope thread id nesting = (.ok handle, started)) :
    handle.token.raw < started.nextToken ∧
      (handle.depth = 1 → traffic.world.nextToken ≤ handle.token.raw) := by
  have bound := World.bound_openScope opened
  have counted := traffic.world.nextToken_le_openScope thread id nesting
  rw [opened] at counted
  by_cases outermost : traffic.world.depth thread id = 0
  · obtain ⟨fresh, minted⟩ := World.openScope_outermost_token opened outermost
    rw [fresh, minted]
    exact ⟨Nat.lt_succ_self _, fun _ => Nat.le_refl _⟩
  · have inner : handle.depth ≠ 1 := by
      have depth := bound.depth
      rw [World.depth_eq] at outermost
      omega
    obtain ⟨outer, outermost⟩ := exists_outermost?_call opened
    obtain ⟨running, facts⟩ := sound.outermost?_call opened outermost
    rw [step_call_of_opened opened] at running
    rcases List.mem_cons.mp running with rfl | older
    · exact absurd facts.depth inner
    · have known := tokened.numbered outer (sound.handedOut.subset older)
      rw [facts.token] at known
      exact ⟨Nat.lt_of_lt_of_le known counted, fun depth => absurd depth inner⟩

theorem Tokened.call (tokened : traffic.Tokened) (sound : traffic.Sound) (thread : ThreadId)
    (id : ManagerId) (nesting : Bool) : (traffic.step (.call thread id nesting)).Tokened := by
  have counted := traffic.world.nextToken_le_openScope thread id nesting
  cases opening : traffic.world.openScope thread id nesting with
  | mk result started =>
      rw [opening] at counted
      cases result with
      | error error =>
          simp only [Traffic.step, Traffic.call, opening]
          exact tokened.withWorld counted
      | ok handle =>
          obtain ⟨below, fresh⟩ := tokened.token_call sound opening
          -- A new outermost call has a number that no older token has.
          have apart : ∀ older ∈ traffic.issued, handle.depth = 1 → older.token ≠ handle.token := by
            intro older member outermost same
            have earlier := tokened.numbered older member
            rw [same] at earlier
            exact absurd (fresh outermost) (Nat.not_le.mpr earlier)
          rw [step_call_of_opened opening]
          refine ⟨?_, ?_⟩
          · intro other member
            rcases List.mem_cons.mp member with rfl | older
            · exact below
            · exact Nat.lt_of_lt_of_le (tokened.numbered other older) counted
          · intro first one second two firstDepth secondDepth same
            rcases List.mem_cons.mp one with rfl | firstOlder
            · rcases List.mem_cons.mp two with rfl | secondOlder
              · rfl
              · exact absurd same.symm (apart second secondOlder firstDepth)
            · rcases List.mem_cons.mp two with rfl | secondOlder
              · exact absurd same (apart first firstOlder secondDepth)
              · exact tokened.distinct _ firstOlder _ secondOlder firstDepth secondDepth same

theorem Tokened.step (tokened : traffic.Tokened) (sound : traffic.Sound) (event : Event)
    (counted : ∀ after, event = .aside after → traffic.world.nextToken ≤ after.nextToken) :
    (traffic.step event).Tokened := by
  cases event with
  | call thread id nesting => exact tokened.call sound thread id nesting
  | finish thread ending =>
      simp only [Traffic.step, Traffic.finish]
      split
      · exact tokened
      · next handle innermost =>
          have same := World.sameTokens_frame.conclude traffic.world handle ending
          exact ⟨fun other member => same ▸ tokened.numbered other member, tokened.distinct⟩
  | request request =>
      exact tokened.withWorld (Nat.le_of_eq (traffic.world.nextToken_perform request).symm)
  | aside after => exact tokened.withWorld (counted after rfl)

theorem Tokened.run (tokened : traffic.Tokened) (sound : traffic.Sound)
    (lawful : traffic.Lawful events) (counted : traffic.CountsTokens events) :
    (traffic.run events).Tokened := by
  induction events generalizing traffic with
  | nil => exact tokened
  | cons event rest ih =>
      exact ih (tokened.step sound event counted.1) (sound.step event lawful.1) lawful.2 counted.2

theorem tokened_begin (start : World) : (begin start).Tokened where
  numbered _ member := by simp [begin] at member
  distinct _ member := by simp [begin] at member

/-- Handles have one token exactly if they have one outermost call. -/
theorem OpenedWithin.token_eq_iff {first second firstOuter secondOuter : Handle}
    (one : traffic.OpenedWithin events first firstOuter)
    (two : traffic.OpenedWithin events second secondOuter) (sound : traffic.Sound)
    (tokened : traffic.Tokened) (lawful : traffic.Lawful events)
    (counted : traffic.CountsTokens events) :
    first.token = second.token ↔ firstOuter = secondOuter := by
  obtain ⟨firstIssued, firstSame⟩ := one.outermost sound lawful
  obtain ⟨secondIssued, secondSame⟩ := two.outermost sound lawful
  rw [← firstSame.token, ← secondSame.token]
  constructor
  · exact (tokened.run sound lawful counted).distinct _ firstIssued _ secondIssued
      firstSame.depth secondSame.depth
  · rintro rfl
    rfl

/-- Tokens identify outermost calls.  Whatever has happened in a world that had no contexts at
first, no two calls have handed out the same handle, each was made within an outermost call of its
registry, thread and resource, and two handles have the same token exactly if they were handed out
within the same outermost call.  Once that call has finished, no handle handed out later has the
token. -/
theorem tokens_identify_outermost_calls {start : World}
    (unused : ∀ registry key, start.contextAt? registry key = none) {past : List Event}
    (lawful : (begin start).Lawful past) (counted : (begin start).CountsTokens past) :
    let reached := (begin start).run past
    reached.issued.Nodup ∧
    (∀ handle ∈ reached.issued, ∃ outer, (begin start).OpenedWithin past handle outer ∧
      (begin start).OpenedWithin past outer outer ∧
      outer.registry = handle.registry ∧ outer.key = handle.key) ∧
    (∀ first firstOuter second secondOuter, (begin start).OpenedWithin past first firstOuter →
      (begin start).OpenedWithin past second secondOuter →
      (first.token = second.token ↔ firstOuter = secondOuter)) ∧
    ∀ handle outer, (begin start).OpenedWithin past handle outer → outer ∉ reached.running →
      ∀ future, reached.Lawful future → reached.CountsTokens future →
        ∀ later ∈ (reached.run future).issued, later ∉ reached.issued →
          later.token ≠ handle.token := by
  intro reached
  have sound := sound_begin unused
  have tokened := tokened_begin start
  have reachedSound : reached.Sound := sound.run lawful
  have nothing (handle : Handle) : handle ∉ (begin start).issued := by simp [begin]
  refine ⟨?_, ?_, ?_, ?_⟩
  · refine reachedSound.newestFirst.imp fun lower same => ?_
    exact absurd (congrArg (fun handle => handle.scope.raw) same) (Nat.ne_of_gt lower)
  · intro handle issued
    obtain ⟨outer, opened, -⟩ := sound.openedWithin lawful (nothing handle) issued
    obtain ⟨outerIssued, same⟩ := opened.outermost sound lawful
    obtain ⟨around, own, itself⟩ := sound.openedWithin lawful (nothing outer) outerIssued
    obtain rfl := itself same.depth
    exact ⟨around, opened, own, same.registry, same.key⟩
  · intro first firstOuter second secondOuter one two
    exact one.token_eq_iff two sound tokened lawful counted
  · intro handle outer opened finished future futureLawful futureCounted later issued fresh same
    obtain ⟨outerIssued, -⟩ := opened.outermost sound lawful
    obtain ⟨laterOuter, laterOpened, -⟩ := reachedSound.openedWithin futureLawful fresh issued
    -- With the token of the finished call, the later handle would have been opened within it.
    obtain rfl := (laterOpened.after.token_eq_iff (opened.append future) sound tokened
      (lawful_append.mpr ⟨lawful, futureLawful⟩)
      (countsTokens_append.mpr ⟨counted, futureCounted⟩)).mp same
    exact reachedSound.not_openedWithin_of_finished futureLawful outerIssued finished laterOpened

/-- A world with one graph and a second manager of it. -/
def sharedGraph : World :=
  (loneGraph.addStandalone (.inr (.graph ⟨1⟩)) (some (.graph ⟨1⟩)) TransactionConfig.standard).2

/-- The handle of the outermost scope with a token and a number. -/
def outerHandle (token scope : Nat) : Handle :=
  ⟨.base, ⟨token⟩, ⟨scope⟩, 1, ⟨⟨0⟩, .graph ⟨1⟩⟩, .graph ⟨1⟩⟩

/-- A thread opens a scope through the one manager and another scope in it through the other. -/
def sharedScopes : List Event :=
  [.call ⟨0⟩ (.graph ⟨1⟩) false, .call ⟨0⟩ (.standalone 1) true, .finish ⟨0⟩ (.panicked "stop"),
    .finish ⟨0⟩ (.done ())]

/-- The scope opened through the second manager has the token of the one around it, and an
outermost scope that is opened later has another token. -/
theorem tokens_of_sharedScopes :
    let reached := (begin sharedGraph).run sharedScopes
    let later := reached.step (.call ⟨0⟩ (.standalone 1) false)
    reached.issued = [innerHandle 2, outerHandle 1 1] ∧
      (innerHandle 2).token = (outerHandle 1 1).token ∧
      later.issued = outerHandle 2 3 :: reached.issued ∧
      (outerHandle 2 3).token ≠ (outerHandle 1 1).token := by
  intro reached later
  have unused : ∀ registry key, sharedGraph.contextAt? registry key = none :=
    World.unused_addStandalone
      (World.unused_addGraph World.unused_empty true TransactionConfig.standard) _ _ _
  have lawful : (begin sharedGraph).Lawful sharedScopes := by simp [sharedScopes, Lawful]
  have counted : (begin sharedGraph).CountsTokens sharedScopes := by
    simp [sharedScopes, CountsTokens]
  have issued : reached.issued = [innerHandle 2, outerHandle 1 1] := rfl
  have ended : reached.running = [] := rfl
  have outermost : (begin sharedGraph).OpenedWithin sharedScopes (outerHandle 1 1)
      (outerHandle 1 1) := ⟨[], _, _, _, _, rfl, ⟨_, rfl⟩, rfl⟩
  have inner : (begin sharedGraph).OpenedWithin sharedScopes (innerHandle 2) (outerHandle 1 1) :=
    ⟨[.call ⟨0⟩ (.graph ⟨1⟩) false], _, _, _, _, rfl, ⟨_, rfl⟩, rfl⟩
  obtain ⟨-, -, same, never⟩ := tokens_identify_outermost_calls unused lawful counted
  have again : later.issued = outerHandle 2 3 :: reached.issued := rfl
  refine ⟨issued, (same _ _ _ _ inner outermost).mpr rfl, again, ?_⟩
  have finished : outerHandle 1 1 ∉ reached.running := ended ▸ List.not_mem_nil
  have fresh : outerHandle 2 3 ∉ reached.issued := by rw [issued]; decide
  have handedOut : outerHandle 2 3 ∈ later.issued := again ▸ List.mem_cons_self
  exact never _ _ outermost finished [.call ⟨0⟩ (.standalone 1) false] (by simp [Lawful])
    (by simp [CountsTokens]) _ handedOut fresh

end Traffic

end RoutedGraph
