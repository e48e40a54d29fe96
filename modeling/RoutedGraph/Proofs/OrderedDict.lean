import RoutedGraph.Element

/-!
# Dictionaries in strict key order

A dictionary grown by insertion from the empty one lists its keys in strictly
ascending order.  Two such dictionaries with the same look-ups are the same
list of entries, so a write that is taken back leaves no trace of itself, not
even in the order of the entries.
-/

namespace RoutedGraph

instance : Std.TransOrd VertexId :=
  inferInstanceAs (Std.TransCmp (compareOn VertexId.raw))

instance : Std.LawfulEqOrd VertexId where
  eq_of_compare {first second} same := by
    have rawSame : first.raw = second.raw := Std.LawfulEqOrd.eq_of_compare same
    cases first
    cases second
    simpa using rawSame

instance : Std.TransOrd EdgeId :=
  inferInstanceAs (Std.TransCmp (compareOn EdgeId.raw))

instance : Std.LawfulEqOrd EdgeId where
  eq_of_compare {first second} same := by
    have rawSame : first.raw = second.raw := Std.LawfulEqOrd.eq_of_compare same
    cases first
    cases second
    simpa using rawSame

namespace Dict

variable {κ β : Type}

section Order

variable [Ord κ]

/-- The keys ascend strictly. -/
def Ordered (dict : Dict κ β) : Prop :=
  dict.entries.Pairwise fun first second => compare first.1 second.1 = .lt

@[simp]
theorem ordered_empty : (empty : Dict κ β).Ordered := List.Pairwise.nil

/-- The keys of an ordered dictionary ascend strictly as a list. -/
theorem Ordered.keys {dict : Dict κ β} (ordered : dict.Ordered) :
    dict.keys.Pairwise fun first second => compare first second = .lt := by
  unfold Dict.keys
  rw [List.pairwise_map]
  exact ordered

/-- Leaving entries out keeps the order. -/
theorem Ordered.filter {dict : Dict κ β} (ordered : dict.Ordered) (keep : κ × β → Bool) :
    (Dict.mk (dict.entries.filter keep)).Ordered :=
  List.Pairwise.sublist List.filter_sublist ordered

/-- Wherever a new entry is put, it is one entry more. -/
theorem place_perm (key : κ) (value : β) (entries : List (κ × β)) :
    (place key value entries).Perm ((key, value) :: entries) := by
  induction entries with
  | nil => exact List.Perm.refl _
  | cons head rest ih =>
      by_cases before : compare key head.1 = .lt
      · simp [place, before]
      · simp only [place, if_neg before]
        exact (ih.cons head).trans (List.Perm.swap _ _ _)

theorem mem_place {key : κ} {value : β} {entry : κ × β} {entries : List (κ × β)}
    (member : entry ∈ place key value entries) : entry = (key, value) ∨ entry ∈ entries :=
  List.mem_cons.mp ((place_perm key value entries).mem_iff.mp member)

theorem compare_self_ne_lt [Std.TransOrd κ] (key : κ) : compare key key ≠ .lt := by
  simp

theorem nodup_of_ascending [Std.TransOrd κ] {keys : List κ}
    (ascending : keys.Pairwise fun first second => compare first second = .lt) : keys.Nodup := by
  refine ascending.imp ?_
  intro first second before same
  rw [same] at before
  exact compare_self_ne_lt second before

/-- Ascending lists of the same keys are the same. -/
theorem eq_of_ascending [Std.TransOrd κ] {first second : List κ}
    (firstAscends : first.Pairwise fun one two => compare one two = .lt)
    (secondAscends : second.Pairwise fun one two => compare one two = .lt)
    (same : ∀ key, key ∈ first ↔ key ∈ second) : first = second := by
  refine List.Perm.eq_of_pairwise ?_ firstAscends secondAscends ?_
  · intro one two _ _ less greater
    exact absurd (Std.TransCmp.lt_trans less greater) (compare_self_ne_lt one)
  · exact (List.perm_ext_iff_of_nodup (nodup_of_ascending firstAscends)
      (nodup_of_ascending secondAscends)).mpr same

end Order

variable [DecidableEq κ]

theorem find?_eq_none_iff (key : κ) (entries : List (κ × β)) :
    find? key entries = none ↔ ∀ entry ∈ entries, entry.1 ≠ key := by
  induction entries with
  | nil => simp [find?]
  | cons entry rest ih =>
      obtain ⟨present, value⟩ := entry
      by_cases here : present = key
      · simp [find?, here]
      · simp [find?, here, ih]

theorem mem_of_find? {key : κ} {value : β} {entries : List (κ × β)}
    (found : find? key entries = some value) : (key, value) ∈ entries := by
  induction entries with
  | nil => simp [find?] at found
  | cons entry rest ih =>
      obtain ⟨present, old⟩ := entry
      by_cases here : present = key
      · simp_all [find?]
      · simp only [find?, if_neg here] at found
        exact List.mem_cons_of_mem _ (ih found)

/-- A key is listed exactly if it is present. -/
theorem mem_keys_iff (dict : Dict κ β) (key : κ) :
    key ∈ dict.keys ↔ dict.contains key = true := by
  constructor
  · intro listed
    obtain ⟨entry, member, same⟩ := List.mem_map.mp listed
    cases found : find? key dict.entries with
    | none => exact absurd same ((find?_eq_none_iff key _).mp found entry member)
    | some value => simp [contains, get?, found]
  · intro present
    obtain ⟨value, found⟩ := Option.isSome_iff_exists.mp present
    exact List.mem_map.mpr ⟨(key, value), mem_of_find? found, rfl⟩

@[simp]
theorem contains_iff_get? (dict : Dict κ β) (key : κ) :
    dict.contains key = true ↔ ∃ value, dict.get? key = some value :=
  Option.isSome_iff_exists

theorem replace_replace (key : κ) (value : β) {old : β} {entries : List (κ × β)}
    (found : find? key entries = some old) :
    replace key old (replace key value entries) = entries := by
  induction entries with
  | nil => rfl
  | cons entry rest ih =>
      obtain ⟨present, stored⟩ := entry
      by_cases here : present = key
      · simp_all [find?, replace]
      · simp only [find?, if_neg here] at found
        simp [replace, here, ih found]

theorem filter_place [Ord κ] (key : κ) (value : β) {entries : List (κ × β)}
    (absent : find? key entries = none) :
    ((place key value entries).filter fun entry => decide (entry.1 ≠ key)) = entries := by
  induction entries with
  | nil => simp [place]
  | cons entry rest ih =>
      obtain ⟨present, stored⟩ := entry
      have others := (find?_eq_none_iff key _).mp absent
      have here : present ≠ key := others (present, stored) List.mem_cons_self
      have restOthers : ∀ entry ∈ rest, entry.1 ≠ key := fun other member =>
        others other (List.mem_cons_of_mem _ member)
      have missing : find? key rest = none := (find?_eq_none_iff key rest).mpr restOthers
      by_cases before : compare key present = .lt
      · have untouched : rest.filter (fun entry => decide (entry.1 ≠ key)) = rest :=
          List.filter_eq_self.mpr fun other member => by simp [restOthers other member]
        simpa [place, before, here] using untouched
      · simpa [place, before, here] using ih missing

/-- Writing a new value and then the old one again changes nothing. -/
theorem insert_insert_cancel [Ord κ] {dict : Dict κ β} {key : κ} {old : β}
    (found : dict.get? key = some old) (value : β) :
    (dict.insert key value).insert key old = dict := by
  have present : dict.contains key = true := by simp [contains, found]
  have stillPresent : (dict.insert key value).contains key = true := by simp [contains]
  rw [insert, if_pos stillPresent]
  simp only [insert, if_pos present]
  rw [replace_replace key value found]

/-- Writing a new key and then erasing it changes nothing. -/
theorem erase_insert_cancel [Ord κ] {dict : Dict κ β} {key : κ}
    (absent : dict.get? key = none) (value : β) :
    (dict.insert key value).erase key = dict := by
  have missing : ¬ dict.contains key = true := by simp [contains, absent]
  simp only [insert, if_neg missing, erase]
  rw [filter_place key value absent]

theorem Ordered.erase [Ord κ] {dict : Dict κ β} (ordered : dict.Ordered) (key : κ) :
    (dict.erase key).Ordered :=
  ordered.filter _

theorem keys_replace (key : κ) (value : β) (entries : List (κ × β)) :
    (replace key value entries).map Prod.fst = entries.map Prod.fst := by
  induction entries with
  | nil => rfl
  | cons entry rest ih =>
      obtain ⟨present, stored⟩ := entry
      by_cases here : present = key <;> simp [replace, here, ih]

theorem pairwise_replace [Ord κ] (key : κ) (value : β) {entries : List (κ × β)}
    (ordered : entries.Pairwise fun first second => compare first.1 second.1 = .lt) :
    (replace key value entries).Pairwise
      fun first second => compare first.1 second.1 = .lt := by
  have keysOrdered :
      (entries.map Prod.fst).Pairwise fun first second => compare first second = .lt :=
    List.pairwise_map.mpr ordered
  rw [← keys_replace key value] at keysOrdered
  exact List.pairwise_map.mp keysOrdered

/-- Writing lists no key twice, whether or not keys are in order. -/
theorem nodup_keys_insert [Ord κ] {dict : Dict κ β} (distinct : dict.keys.Nodup) (key : κ)
    (value : β) : (dict.insert key value).keys.Nodup := by
  unfold Dict.insert
  split
  · simp only [keys, keys_replace]
    exact distinct
  · next absent =>
      have fresh : key ∉ dict.keys := fun listed => absent ((mem_keys_iff dict key).mp listed)
      exact ((place_perm key value dict.entries).map Prod.fst).nodup_iff.mpr
        (List.nodup_cons.mpr ⟨fresh, distinct⟩)

theorem nodup_keys_erase {dict : Dict κ β} (distinct : dict.keys.Nodup) (key : κ) :
    (dict.erase key).keys.Nodup :=
  distinct.sublist (List.filter_sublist.map Prod.fst)

theorem head_le_of_find? [Ord κ] {key present : κ} {value stored : β} {rest : List (κ × β)}
    (ordered : ((present, stored) :: rest).Pairwise
      fun first second => compare first.1 second.1 = .lt)
    (found : find? key ((present, stored) :: rest) = some value) :
    present = key ∨ compare present key = .lt := by
  rcases List.mem_cons.mp (mem_of_find? found) with same | member
  · exact Or.inl (congrArg Prod.fst same).symm
  · exact Or.inr ((List.pairwise_cons.mp ordered).1 _ member)

section Transitive

variable [Ord κ] [Std.TransOrd κ]

theorem find?_eq_none_of_before {key : κ} {entries : List (κ × β)}
    (before : ∀ entry ∈ entries, compare key entry.1 = .lt) : find? key entries = none := by
  refine (find?_eq_none_iff key entries).mpr ?_
  intro entry member same
  have less := before entry member
  rw [same] at less
  exact compare_self_ne_lt key less

theorem entries_eq_of_find?_eq {first second : List (κ × β)}
    (firstOrdered : first.Pairwise fun one two => compare one.1 two.1 = .lt)
    (secondOrdered : second.Pairwise fun one two => compare one.1 two.1 = .lt)
    (same : ∀ key, find? key first = find? key second) : first = second := by
  -- The first keys are the least ones on both sides, so each is found on the other side.
  induction first generalizing second with
  | nil =>
      cases second with
      | nil => rfl
      | cons entry rest => simpa [find?] using same entry.1
  | cons entry rest ih =>
      obtain ⟨key, value⟩ := entry
      cases second with
      | nil => simpa [find?] using same key
      | cons other others =>
          obtain ⟨otherKey, otherValue⟩ := other
          have keysSame : otherKey = key := by
            have foundFirst : find? key ((otherKey, otherValue) :: others) = some value := by
              rw [← same key]
              simp [find?]
            have foundSecond : find? otherKey ((key, value) :: rest) = some otherValue := by
              rw [same otherKey]
              simp [find?]
            rcases head_le_of_find? secondOrdered foundFirst with equal | less
            · exact equal
            rcases head_le_of_find? firstOrdered foundSecond with equal | greater
            · exact equal.symm
            exact absurd (Std.TransCmp.lt_trans less greater) (compare_self_ne_lt otherKey)
          subst keysSame
          have valuesSame : value = otherValue := by simpa [find?] using same otherKey
          subst valuesSame
          obtain ⟨before, tail⟩ := List.pairwise_cons.mp firstOrdered
          obtain ⟨otherBefore, otherTail⟩ := List.pairwise_cons.mp secondOrdered
          have restSame : rest = others := by
            refine ih tail otherTail ?_
            intro wanted
            by_cases head : otherKey = wanted
            · subst head
              rw [find?_eq_none_of_before before, find?_eq_none_of_before otherBefore]
            · simpa [find?, head] using same wanted
          rw [restSame]

/-- Ordered dictionaries that answer every look-up alike are the same. -/
theorem Ordered.eq_of_get?_eq {first second : Dict κ β} (firstOrdered : first.Ordered)
    (secondOrdered : second.Ordered) (same : ∀ key, first.get? key = second.get? key) :
    first = second := by
  cases first
  cases second
  exact congrArg Dict.mk (entries_eq_of_find?_eq firstOrdered secondOrdered same)

/-- Leaving entries out of an ordered dictionary filters what its keys answer. -/
theorem Ordered.get?_filter {dict : Dict κ β} (ordered : dict.Ordered) (keep : κ × β → Bool)
    (key : κ) :
    (Dict.mk (dict.entries.filter keep)).get? key =
      (dict.get? key).filter fun value => keep (key, value) := by
  cases dict with
  | mk entries =>
      simp only [get?]
      induction entries with
      | nil => simp [find?]
      | cons entry rest ih =>
          obtain ⟨present, value⟩ := entry
          obtain ⟨before, tail⟩ := List.pairwise_cons.mp ordered
          have later := ih tail
          by_cases here : present = key
          · subst here
            have missing : find? present rest = none := find?_eq_none_of_before before
            cases kept : keep (present, value) <;>
              simp_all [find?, Option.filter]
          · cases kept : keep (present, value) <;> simp_all [find?]

end Transitive

section Lawful

variable [Ord κ] [Std.TransOrd κ] [Std.LawfulEqOrd κ]

theorem pairwise_place (key : κ) (value : β) {entries : List (κ × β)}
    (ordered : entries.Pairwise fun first second => compare first.1 second.1 = .lt)
    (absent : find? key entries = none) :
    (place key value entries).Pairwise
      fun first second => compare first.1 second.1 = .lt := by
  induction entries with
  | nil => simp [place]
  | cons entry rest ih =>
      obtain ⟨present, stored⟩ := entry
      obtain ⟨first, tail⟩ := List.pairwise_cons.mp ordered
      have others := (find?_eq_none_iff key _).mp absent
      have here : present ≠ key := others (present, stored) List.mem_cons_self
      have missing : find? key rest = none :=
        (find?_eq_none_iff key rest).mpr fun other member =>
          others other (List.mem_cons_of_mem _ member)
      by_cases before : compare key present = .lt
      · rw [place, if_pos before]
        refine List.pairwise_cons.mpr ⟨?_, ordered⟩
        intro other member
        rcases List.mem_cons.mp member with rfl | member
        · exact before
        · exact Std.TransCmp.lt_trans before (first other member)
      · rw [place, if_neg before]
        refine List.pairwise_cons.mpr ⟨?_, ih tail missing⟩
        intro other member
        rcases mem_place member with rfl | member
        · have unequal : compare key present ≠ .eq := fun same =>
            here (Std.LawfulEqOrd.eq_of_compare same).symm
          have greater : compare key present = .gt := by
            cases order : compare key present <;> simp_all
          exact Std.OrientedCmp.gt_iff_lt.mp greater
        · exact first other member

theorem Ordered.insert {dict : Dict κ β} (ordered : dict.Ordered) (key : κ) (value : β) :
    (dict.insert key value).Ordered := by
  unfold Dict.insert
  split
  · exact pairwise_replace key value ordered
  · next absent =>
      exact pairwise_place key value ordered (by simpa [contains, get?] using absent)

/-- Erasing a key and then writing it again changes nothing. -/
theorem insert_erase_cancel {dict : Dict κ β} (ordered : dict.Ordered) {key : κ} {value : β}
    (found : dict.get? key = some value) : (dict.erase key).insert key value = dict := by
  refine Ordered.eq_of_get?_eq ((ordered.erase key).insert key value) ordered ?_
  intro other
  by_cases same : key = other
  · subst same
    simp [found]
  · rw [get?_insert_of_ne _ same, get?_erase_of_ne _ same]

end Lawful

end Dict

end RoutedGraph
