import RoutedGraph.Pipe.Basic

/-!
# Pulling a pipe

A pull moves a pipe until it brings an item, reaches an end or fails.  Every
small step that does not reach an end lowers the rank of the pipe, so a pull
ends: `step_descends` is the law that makes `pull` total.
-/

namespace RoutedGraph

/-- What is left in a stack of stages.  A stage has something left of its own besides what is left
in its supply. -/
inductive Rank where
  | source (left : Nat)
  | stage (supply : Rank) (left : Nat)

namespace Rank

/-- Stacks of one height compare by their supplies, and by what is left in the stage on top if
these are the same. -/
inductive Lower : Rank → Rank → Prop where
  | source {left right : Nat} (less : left < right) : Lower (source left) (source right)
  | supply {below above : Rank} (lower : Lower below above) (left right : Nat) :
      Lower (stage below left) (stage above right)
  | own {left right : Nat} (below : Rank) (less : left < right) :
      Lower (stage below left) (stage below right)

theorem Lower.trans {first second third : Rank} (lower : Lower first second)
    (higher : Lower second third) : Lower first third := by
  induction lower generalizing third with
  | source less =>
      cases higher with
      | source more => exact .source (Nat.lt_trans less more)
  | supply _ left _ ih =>
      cases higher with
      | supply above _ right => exact .supply (ih above) left right
      | own _ more => exact .supply ‹_› left _
  | own below less =>
      cases higher with
      | supply above _ right => exact .supply above _ right
      | own _ more => exact .own below (Nat.lt_trans less more)

theorem accessible_source (left : Nat) : Acc Lower (source left) := by
  induction left using Nat.strongRecOn with
  | ind left ih => exact ⟨_, fun _ lower => by cases lower with | source less => exact ih _ less⟩

/-- A stage is reached from below in finitely many steps if its supply is. -/
theorem accessible_stage {supply : Rank} (accessible : Acc Lower supply) (left : Nat) :
    Acc Lower (stage supply left) := by
  have pairs : ∀ pair, Acc (Prod.Lex Lower (· < ·)) pair → Acc Lower (stage pair.1 pair.2) := by
    intro pair reached
    induction reached with
    | intro pair _ ih =>
        refine ⟨_, fun _ lower => ?_⟩
        cases lower with
        | supply lower left => exact ih (_, left) (.left _ _ lower)
        | own _ less => exact ih (_, _) (.right _ less)
  exact pairs (supply, left) (Prod.lexAccessible accessible Nat.lt_wfRel.wf.apply left)

theorem accessible (rank : Rank) : Acc Lower rank := by
  induction rank with
  | source left => exact accessible_source left
  | stage supply left ih => exact accessible_stage ih left

instance : WellFoundedRelation Rank := ⟨Lower, ⟨accessible⟩⟩

end Rank

namespace Pipe

variable {ω α : Type}

/-- What is left in each stage.  For a sorting stage that is the items it holds, and the end of its
supply unless it has been reached. -/
def rank : Pipe ω α → Rank
  | source readings => .source readings.length
  | script _ cues => .source cues.length
  | map _ _ supply => supply.rank
  | select _ _ supply => supply.rank
  | sections _ _ _ children _ supply => .stage supply.rank children.length
  | sort _ held _ exhausted supply => .stage supply.rank (if exhausted then held else held + 1)

/-- A step lowers the rank, or reaches an end and leaves the rank as it is. -/
def Descends (before after : Pipe ω α) (motion : Motion α) : Prop :=
  after.rank.Lower before.rank ∨ (after.rank = before.rank ∧ motion = .done)

theorem Descends.lower {before after : Pipe ω α} {motion : Motion α}
    (descends : Descends before after motion) (goesOn : motion ≠ .done) :
    after.rank.Lower before.rank :=
  descends.resolve_right fun ended => goesOn ended.2

/-- An item that is passed on is no longer held. -/
theorem ready?_held {window : WindowId} {held : Nat} {pulling : Bool} {hub : Hub α} {item : α}
    {rest : Nat} {popped : Hub α}
    (found : ready? window held pulling hub = some (item, rest, popped)) :
    held = rest + 1 := by
  cases held with
  | zero => simp [ready?] at found
  | succ held =>
      cases pulling with
      | true => simp [ready?] at found
      | false =>
          simp only [ready?, Option.map_eq_some_iff, Prod.mk.injEq] at found
          obtain ⟨_, _, _, rfl, _⟩ := found
          rfl

/-- A step of the supply lowers an expanding stage, whatever children it ends up with. -/
theorem stepSections_descends (world : ω) (expand : ω → α → Except RouteError (List α))
    (events : EventsId) (current : Option α) (index former : Nat) (supply : Pipe ω α)
    (moved : Motion α × Pipe ω α × Hub α) (lower : Descends supply moved.2.1 moved.1) :
    Descends (sections expand events current [] former supply)
      (stepSections world expand events index moved).2.1
      (stepSections world expand events index moved).1 := by
  obtain ⟨motion, next, hub⟩ := moved
  rcases lower with below | ⟨same, ended⟩
  · refine Or.inl ?_
    cases motion with
    | item marker =>
        simp only [stepSections]
        cases expand world marker <;> exact .supply below _ _
    | skip => exact .supply below _ _
    | done => exact .supply below _ _
    | failed error => exact .supply below _ _
  · obtain rfl : motion = .done := ended
    exact Or.inr ⟨congrArg (Rank.stage · 0) same, rfl⟩

/-- A step of the supply lowers a sorting stage; so does the end of the supply. -/
theorem stepSort_descends (window : WindowId) (held : Nat) (pulling : Bool) (supply : Pipe ω α)
    (moved : Motion α × Pipe ω α × Hub α) (lower : Descends supply moved.2.1 moved.1) :
    Descends (sort window held pulling false supply) (stepSort window held moved).2.1
      (stepSort window held moved).1 := by
  obtain ⟨motion, next, hub⟩ := moved
  refine Or.inl ?_
  rcases lower with below | ⟨same, ended⟩
  · cases motion <;> exact .supply below _ _
  · obtain rfl : motion = .done := ended
    change (Rank.stage next.rank held).Lower (.stage supply.rank (held + 1))
    rw [show next.rank = supply.rank from same]
    exact .own _ (Nat.lt_succ_self held)

/-- Every small step lowers the rank, or reaches an end and leaves the rank as it is. -/
theorem step_descends (world : ω) (pipe : Pipe ω α) (hub : Hub α) :
    Descends pipe (pipe.step world hub).2.1 (pipe.step world hub).1 := by
  induction pipe generalizing hub with
  | source readings =>
      cases readings with
      | nil => exact Or.inr ⟨rfl, rfl⟩
      | cons reading rest => exact Or.inl (.source (Nat.lt_succ_self _))
  | script events cues =>
      cases cues with
      | nil => exact Or.inr ⟨rfl, rfl⟩
      | cons cue rest => cases cue <;> exact Or.inl (.source (Nat.lt_succ_self _))
  | map change seen supply ih =>
      have lower := ih hub
      simp only [step]
      split <;> rename_i moved <;> rw [moved] at lower <;>
        simpa [Descends, rank, Motion.ofExcept_ne_done] using lower
  | select keeps seen supply ih =>
      have lower := ih hub
      simp only [step]
      split <;> rename_i moved <;> rw [moved] at lower
      · exact Or.inl (lower.lower (by simp))
      all_goals simpa [Descends, rank] using lower
  | sections expand events current children index supply ih =>
      cases children with
      | cons child children => exact Or.inl (.own _ (Nat.lt_succ_self _))
      | nil =>
          cases current with
          | none => exact stepSections_descends world expand events none index index supply _ (ih _)
          | some marker =>
              exact stepSections_descends world expand events (some marker) (index + 1) index
                supply _ (ih _)
  | sort window held pulling exhausted supply ih =>
      simp only [step]
      split
      · rename_i value rest popped found
        cases ready?_held found
        cases exhausted <;> exact Or.inl (.own _ (Nat.lt_succ_self _))
      · cases exhausted with
        | true => exact Or.inr ⟨rfl, rfl⟩
        | false => exact stepSort_descends window held pulling supply _ (ih hub)

/-- A small step that does not reach an end lowers the rank. -/
theorem step_lowers {world : ω} {pipe next : Pipe ω α} {hub later : Hub α} {motion : Motion α}
    (moved : pipe.step world hub = (motion, next, later)) (goesOn : motion ≠ .done) :
    next.rank.Lower pipe.rank := by
  have descends := step_descends world pipe hub
  rw [moved] at descends
  exact descends.lower goesOn

/-- Move a pipe until it brings an item, reaches an end or fails. -/
def pull (world : ω) (pipe : Pipe ω α) (hub : Hub α) : Answer α × Pipe ω α × Hub α :=
  match _moved : pipe.step world hub with
  | (.item value, next, later) => (.item value, next, later)
  | (.skip, next, later) => next.pull world later
  | (.done, next, later) => (.done, next, later)
  | (.failed error, next, later) => (.failed error, next, later)
termination_by pipe.rank
decreasing_by exact step_lowers _moved (by simp)

/-- A pull is a small step, followed by another pull if the step brings nothing. -/
theorem pull_eq (world : ω) (pipe : Pipe ω α) (hub : Hub α) :
    pipe.pull world hub =
      match pipe.step world hub with
      | (.item value, next, later) => (.item value, next, later)
      | (.skip, next, later) => next.pull world later
      | (.done, next, later) => (.done, next, later)
      | (.failed error, next, later) => (.failed error, next, later) := by
  rw [pull]
  split <;> rename_i moved <;> simp only [moved]

/-- A pull that does not reach an end lowers the rank. -/
theorem pull_lowers {world : ω} {pipe next : Pipe ω α} {hub later : Hub α} {answer : Answer α}
    (pulled : pipe.pull world hub = (answer, next, later)) (goesOn : answer ≠ .done) :
    next.rank.Lower pipe.rank := by
  fun_induction pull world pipe hub with
  | case1 pipe hub item after further moved =>
      cases pulled
      exact step_lowers moved (by simp)
  | case2 pipe hub after further moved ih =>
      exact (ih pulled).trans (step_lowers moved (by simp))
  | case3 pipe hub after further moved =>
      cases pulled
      exact absurd rfl goesOn
  | case4 pipe hub error after further moved =>
      cases pulled
      exact step_lowers moved (by simp)

/-- Pull every item up to the first end, unless a failure comes before it. -/
def collect (world : ω) (pipe : Pipe ω α) (hub : Hub α) : Except RouteError (List α) × Hub α :=
  match _pulled : pipe.pull world hub with
  | (.item value, next, later) =>
      let (rest, final) := next.collect world later
      (rest.map (value :: ·), final)
  | (.done, _, later) => (.ok [], later)
  | (.failed error, _, later) => (.error error, later)
termination_by pipe.rank
decreasing_by exact pull_lowers _pulled (by simp)

/-- Collecting is a pull, followed by collecting the rest if the pull brings an item. -/
theorem collect_eq (world : ω) (pipe : Pipe ω α) (hub : Hub α) :
    pipe.collect world hub =
      match pipe.pull world hub with
      | (.item value, next, later) =>
          let (rest, final) := next.collect world later
          (rest.map (value :: ·), final)
      | (.done, _, later) => (.ok [], later)
      | (.failed error, _, later) => (.error error, later) := by
  rw [collect]
  split <;> rename_i pulled <;> simp only [pulled]

end Pipe

end RoutedGraph
