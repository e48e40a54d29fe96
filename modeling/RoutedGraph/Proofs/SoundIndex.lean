import RoutedGraph.Proofs.OrderedDict
import RoutedGraph.Store.Basic

/-!
# Sound indexes

An index is sound if its keys and its sets are in ascending order and no set is
empty.  Adding and removing identifiers keeps an index sound, and a sound index
is determined by which identifiers each key lists; so a removal takes an
addition back exactly, and the other way round.
-/

namespace RoutedGraph

namespace Index

variable {κ ι : Type} [DecidableEq κ]

@[simp]
theorem ids_empty (key : κ) : (empty : Index κ ι).ids key = [] := rfl

section Answers

variable [DecidableEq ι]

/-- An identifier is held under a key exactly if it is listed there. -/
theorem holds_iff_mem (index : Index κ ι) (key : κ) (id : ι) :
    index.holds key id = true ↔ id ∈ index.ids key :=
  (Dict.mem_keys_iff _ _).symm

variable [Ord κ]

theorem remove_of_absent {index : Index κ ι} {key : κ} (absent : index.buckets.get? key = none)
    (id : ι) : index.remove key id = index := by
  simp [remove, absent]

theorem remove_of_present {index : Index κ ι} {key : κ} {present : Dict ι Unit}
    (found : index.buckets.get? key = some present) (id : ι) :
    index.remove key id =
      if (present.erase id).isEmpty then ⟨index.buckets.erase key⟩
      else ⟨index.buckets.insert key (present.erase id)⟩ := by
  simp [remove, found]

theorem bucket_remove (index : Index κ ι) (key other : κ) (id : ι) :
    (index.remove key id).bucket other =
      if key = other then (index.bucket key).erase id else index.bucket other := by
  cases found : index.buckets.get? key with
  | none =>
      rw [remove_of_absent found]
      by_cases same : key = other
      · subst same
        simp [bucket, Dict.getD, found, Dict.erase, Dict.empty]
      · simp [same]
  | some present =>
      have whole : index.bucket key = present := by simp [bucket, Dict.getD, found]
      rw [remove_of_present found, whole]
      by_cases vanishes : (present.erase id).isEmpty = true
      · have emptied : present.erase id = Dict.empty := by
          cases rest : present.erase id with
          | mk entries => simpa [rest, Dict.isEmpty, Dict.empty] using vanishes
        rw [if_pos vanishes, emptied]
        by_cases same : key = other
        · subst same
          simp [bucket, Dict.getD]
        · simp [bucket, Dict.getD, Dict.get?_erase, same]
      · rw [if_neg vanishes]
        by_cases same : key = other
        · subst same
          simp [bucket, Dict.getD]
        · simp [bucket, Dict.getD, Dict.get?_insert, same]

/-- Removing an identifier takes it from its key and changes no other answer. -/
theorem mem_ids_remove (index : Index κ ι) (key other : κ) (id another : ι) :
    another ∈ (index.remove key id).ids other ↔
      ¬ (key = other ∧ id = another) ∧ another ∈ index.ids other := by
  simp only [← holds_iff_mem, holds, bucket_remove]
  by_cases sameKey : key = other
  · subst sameKey
    by_cases sameId : id = another <;> simp [Dict.contains, Dict.get?_erase, sameId]
  · simp [sameKey]

variable [Ord ι]

theorem bucket_add (index : Index κ ι) (key other : κ) (id : ι) :
    (index.add key id).bucket other =
      if key = other then (index.bucket key).insert id () else index.bucket other := by
  simp only [bucket, add, Dict.getD, Dict.get?_insert]
  split <;> rfl

/-- Adding an identifier lists it under its key and changes no other answer. -/
theorem mem_ids_add (index : Index κ ι) (key other : κ) (id another : ι) :
    another ∈ (index.add key id).ids other ↔
      (key = other ∧ id = another) ∨ another ∈ index.ids other := by
  simp only [← holds_iff_mem, holds, bucket_add]
  by_cases sameKey : key = other
  · subst sameKey
    by_cases sameId : id = another <;> simp [Dict.contains, Dict.get?_insert, sameId]
  · simp [sameKey]

end Answers

variable [Ord κ] [Ord ι]

/-- Keys and sets ascend, and no set is empty. -/
structure Sound (index : Index κ ι) : Prop where
  ordered : index.buckets.Ordered
  bucket_ordered : ∀ {key : κ} {bucket : Dict ι Unit},
    index.buckets.get? key = some bucket → bucket.Ordered
  bucket_inhabited : ∀ {key : κ} {bucket : Dict ι Unit},
    index.buckets.get? key = some bucket → bucket.isEmpty = false

theorem sound_empty : (empty : Index κ ι).Sound where
  ordered := Dict.ordered_empty
  bucket_ordered found := by simp [empty] at found
  bucket_inhabited found := by simp [empty] at found

namespace Sound

variable {index : Index κ ι}

theorem ordered_bucket (sound : index.Sound) (key : κ) :
    (index.bucket key).Ordered := by
  unfold bucket Dict.getD
  cases found : index.buckets.get? key with
  | none => exact Dict.ordered_empty
  | some bucket => exact sound.bucket_ordered found

/-- A set that is stored lists an identifier. -/
theorem exists_mem_ids (sound : index.Sound) {key : κ} {bucket : Dict ι Unit}
    (found : index.buckets.get? key = some bucket) : ∃ id, id ∈ index.ids key := by
  have inhabited := sound.bucket_inhabited found
  simp only [ids, Index.bucket, Dict.getD, found, Option.getD_some, Dict.keys]
  cases entries : bucket.entries with
  | nil => simp [Dict.isEmpty, entries] at inhabited
  | cons entry rest => exact ⟨entry.1, by simp⟩

theorem nodup_ids [Std.TransOrd ι] (sound : index.Sound) (key : κ) : (index.ids key).Nodup :=
  Dict.nodup_of_ascending (sound.ordered_bucket key).keys

variable [DecidableEq ι] [Std.TransOrd κ]

/-- Sound indexes that list the same identifiers are the same. -/
theorem eq_of_mem_ids [Std.TransOrd ι] {first second : Index κ ι}
    (firstSound : first.Sound) (secondSound : second.Sound)
    (same : ∀ key id, id ∈ first.ids key ↔ id ∈ second.ids key) : first = second := by
  have bucketsSame : first.buckets = second.buckets := by
    refine firstSound.ordered.eq_of_get?_eq secondSound.ordered ?_
    intro key
    cases inFirst : first.buckets.get? key with
    | none =>
        cases inSecond : second.buckets.get? key with
        | none => rfl
        | some present =>
            obtain ⟨id, member⟩ := secondSound.exists_mem_ids inSecond
            have impossible := (same key id).mpr member
            simp [ids, bucket, Dict.getD, inFirst, Dict.keys, Dict.empty] at impossible
    | some present =>
        cases inSecond : second.buckets.get? key with
        | none =>
            obtain ⟨id, member⟩ := firstSound.exists_mem_ids inFirst
            have impossible := (same key id).mp member
            simp [ids, bucket, Dict.getD, inSecond, Dict.keys, Dict.empty] at impossible
        | some other =>
            refine congrArg some ?_
            refine (firstSound.bucket_ordered inFirst).eq_of_get?_eq
              (secondSound.bucket_ordered inSecond) ?_
            intro id
            have listed := same key id
            simp only [ids, bucket, Dict.getD, inFirst, inSecond, Option.getD_some,
              Dict.mem_keys_iff, Dict.contains] at listed
            cases one : present.get? id <;> cases two : other.get? id <;> simp_all
  cases first
  cases second
  exact congrArg Index.mk bucketsSame

variable [Std.LawfulEqOrd κ]

theorem remove (sound : index.Sound) (key : κ) (id : ι) :
    (index.remove key id).Sound := by
  cases found : index.buckets.get? key with
  | none =>
      rw [remove_of_absent found]
      exact sound
  | some present =>
      rw [remove_of_present found]
      by_cases vanishes : (present.erase id).isEmpty = true
      · rw [if_pos vanishes]
        have kept : ∀ {other : κ} {bucket : Dict ι Unit},
            (index.buckets.erase key).get? other = some bucket →
              index.buckets.get? other = some bucket := by
          intro other bucket stored
          rw [Dict.get?_erase] at stored
          split at stored
          · contradiction
          · exact stored
        exact ⟨sound.ordered.erase _, fun stored => sound.bucket_ordered (kept stored),
          fun stored => sound.bucket_inhabited (kept stored)⟩
      · rw [if_neg vanishes]
        refine ⟨sound.ordered.insert _ _, ?_, ?_⟩
        · intro other bucket stored
          simp only [Dict.get?_insert] at stored
          split at stored
          · obtain rfl := Option.some.inj stored
            exact (sound.bucket_ordered found).erase id
          · exact sound.bucket_ordered stored
        · intro other bucket stored
          simp only [Dict.get?_insert] at stored
          split at stored
          · obtain rfl := Option.some.inj stored
            simpa using vanishes
          · exact sound.bucket_inhabited stored

variable [Std.TransOrd ι] [Std.LawfulEqOrd ι]

theorem add (sound : index.Sound) (key : κ) (id : ι) :
    (index.add key id).Sound where
  ordered := sound.ordered.insert _ _
  bucket_ordered {other bucket} found := by
    simp only [Index.add, Dict.get?_insert] at found
    split at found
    · obtain rfl := Option.some.inj found
      exact (sound.ordered_bucket key).insert _ _
    · exact sound.bucket_ordered found
  bucket_inhabited {other bucket} found := by
    simp only [Index.add, Dict.get?_insert] at found
    split at found
    · obtain rfl := Option.some.inj found
      have stored : ((index.bucket key).insert id ()).get? id = some () := by simp
      cases entries : ((index.bucket key).insert id ()).entries with
      | nil => simp [Dict.get?, Dict.find?, entries] at stored
      | cons entry rest => simp [Dict.isEmpty, entries]
    · exact sound.bucket_inhabited found

/-- Removing an identifier that has just been added changes nothing. -/
theorem remove_add (sound : index.Sound) {key : κ} {id : ι}
    (absent : id ∉ index.ids key) : (index.add key id).remove key id = index := by
  refine ((sound.add key id).remove key id).eq_of_mem_ids sound ?_
  intro other another
  rw [mem_ids_remove, mem_ids_add]
  constructor
  · rintro ⟨different, same | member⟩
    · exact absurd same different
    · exact member
  · intro member
    refine ⟨?_, Or.inr member⟩
    rintro ⟨rfl, rfl⟩
    exact absent member

/-- Adding an identifier that has just been removed changes nothing. -/
theorem add_remove (sound : index.Sound) {key : κ} {id : ι}
    (present : id ∈ index.ids key) : (index.remove key id).add key id = index := by
  refine ((sound.remove key id).add key id).eq_of_mem_ids sound ?_
  intro other another
  rw [mem_ids_add, mem_ids_remove]
  constructor
  · rintro (⟨rfl, rfl⟩ | ⟨-, member⟩)
    · exact present
    · exact member
  · intro member
    by_cases same : key = other ∧ id = another
    · exact Or.inl same
    · exact Or.inr ⟨same, member⟩

end Sound

end Index

end RoutedGraph
