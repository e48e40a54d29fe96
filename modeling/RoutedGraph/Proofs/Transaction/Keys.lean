import Mathlib.Data.Set.Card
import RoutedGraph.Proofs.OrderedDict
import RoutedGraph.Proofs.Transaction.Opening

/-!
# Calls under different keys

A call on a registry reads and changes nothing but the context under its own
key.  However the calls of many threads on many resources are interleaved, and
whether or not they are balanced, those under one key find what they would find
if they were alone.
-/

namespace RoutedGraph

namespace Registry

variable {registry other : Registry} {key : ContextKey}

/-- The calls made under a key. -/
def callsUnder (key : ContextKey) (calls : List (ContextKey × Op)) : List (ContextKey × Op) :=
  calls.filter fun call => decide (call.1 = key)

/-- The answers to the calls made under a key. -/
def answersUnder (key : ContextKey) (calls : List (ContextKey × Op)) (answers : List Answer) :
    List Answer :=
  ((calls.zip answers).filter fun answered => decide (answered.1.1 = key)).map Prod.snd

theorem context_eq (registry : Registry) (key : ContextKey) :
    registry.context key = (registry.snapshot? key).getD Context.vacant := rfl

/-- A call answers from the context under its key, and changes it by what it was. -/
theorem apply_congr (same : registry.snapshot? key = other.snapshot? key) (op : Op) :
    (registry.apply key op).1 = (other.apply key op).1 ∧
      (registry.apply key op).2.snapshot? key = (other.apply key op).2.snapshot? key := by
  have context : registry.context key = other.context key := by
    rw [context_eq, context_eq, same]
  cases op with
  | enter => simp [apply, enter, snapshot?, context]
  | exit => simp [apply, snapshot?_exit_self, same]
  | bind token strategy scope => simp [apply, bind, snapshot?, context]
  | depth => simp [apply, depth, context, same]
  | token => simp [apply, token?, context, same]
  | snapshot => simp [apply, same]

/-- A call leaves the contexts under other keys alone. -/
theorem snapshot?_apply_of_ne (registry : Registry) {key elsewhere : ContextKey}
    (different : key ≠ elsewhere) (op : Op) :
    (registry.apply key op).2.snapshot? elsewhere = registry.snapshot? elsewhere := by
  cases op with
  | enter => exact Dict.get?_insert_of_ne _ different _
  | exit => exact registry.snapshot?_exit_of_ne different
  | bind token strategy scope => exact Dict.get?_insert_of_ne _ different _
  | depth => rfl
  | token => rfl
  | snapshot => rfl

/-- Every call leaves one context at most under a key. -/
theorem nodup_keys_apply (distinct : registry.contexts.keys.Nodup) (key : ContextKey) (op : Op) :
    (registry.apply key op).2.contexts.keys.Nodup := by
  cases op with
  | enter => exact Dict.nodup_keys_insert distinct key _
  | exit =>
      simp only [apply, exit]
      split
      · exact distinct
      · split
        · exact Dict.nodup_keys_erase distinct key
        · exact Dict.nodup_keys_insert distinct key _
  | bind token strategy scope => exact Dict.nodup_keys_insert distinct key _
  | depth => exact distinct
  | token => exact distinct
  | snapshot => exact distinct

theorem length_run (registry : Registry) (calls : List (ContextKey × Op)) :
    (registry.run calls).1.length = calls.length := by
  induction calls generalizing registry with
  | nil => rfl
  | cons call rest ih => simp [run, ih]

theorem nodup_keys_run (distinct : registry.contexts.keys.Nodup) (calls : List (ContextKey × Op)) :
    (registry.run calls).2.contexts.keys.Nodup := by
  induction calls generalizing registry with
  | nil => exact distinct
  | cons call rest ih => exact ih (nodup_keys_apply distinct call.1 call.2)

/-- The calls under a key do among others what they do alone, if they find the same context. -/
theorem run_callsUnder (same : registry.snapshot? key = other.snapshot? key)
    (calls : List (ContextKey × Op)) :
    answersUnder key calls (registry.run calls).1 = (other.run (callsUnder key calls)).1 ∧
      (registry.run calls).2.snapshot? key =
        (other.run (callsUnder key calls)).2.snapshot? key := by
  induction calls generalizing registry other with
  | nil => exact ⟨rfl, same⟩
  | cons call rest ih =>
      obtain ⟨own, op⟩ := call
      by_cases here : own = key
      · subst here
        obtain ⟨answer, left⟩ := apply_congr same op
        obtain ⟨answers, final⟩ := ih left
        simp only [answersUnder, callsUnder] at answers final
        simp [answersUnder, callsUnder, run, answer, answers, final]
      · have left := (registry.snapshot?_apply_of_ne here op).trans same
        obtain ⟨answers, final⟩ := ih left
        simp only [answersUnder, callsUnder] at answers final
        simp [answersUnder, callsUnder, run, here, answers, final]

/-- A registry has as many contexts as there are keys with one. -/
theorem encard_snapshot? (distinct : registry.contexts.keys.Nodup) :
    {key | (registry.snapshot? key).isSome = true}.encard = registry.size := by
  have listed : {key | (registry.snapshot? key).isSome = true} =
      (registry.contexts.keys.toFinset : Set ContextKey) := by
    ext key
    rw [List.coe_toFinset]
    exact (Dict.mem_keys_iff registry.contexts key).symm
  rw [listed, Set.encard_coe_eq_coe_finsetCard, List.toFinset_card_of_nodup distinct]
  simp [Dict.keys, size, Dict.size]

/-- Keys do not interfere.  Whatever calls are made on a registry that was empty, and in whatever
order, each is answered, and the answers under a key and the context that is left there are those
of its own calls made alone; and there are as many contexts as there are keys whose own calls
leave one. -/
theorem run_keeps_keys_apart (calls : List (ContextKey × Op)) :
    let answers := (empty.run calls).1
    let final := (empty.run calls).2
    let alone := fun key => empty.run (callsUnder key calls)
    answers.length = calls.length ∧
    (∀ key, answersUnder key calls answers = (alone key).1) ∧
    (∀ key, final.snapshot? key = (alone key).2.snapshot? key) ∧
    {key | ((alone key).2.snapshot? key).isSome = true}.encard = final.size := by
  intro answers final alone
  have apart (key : ContextKey) := run_callsUnder (rfl : empty.snapshot? key = _) calls
  have distinct : empty.contexts.keys.Nodup := List.nodup_nil
  refine ⟨length_run _ calls, fun key => (apart key).1, fun key => (apart key).2, ?_⟩
  have counted := encard_snapshot? (nodup_keys_run distinct calls)
  simpa only [fun key => (apart key).2] using counted

end Registry

end RoutedGraph
