/-!
# Dictionaries kept in key order

A dictionary is a list of entries.  Insertion replaces the value of a present
key where it stands and puts a new key before the first greater one, so a
dictionary grown from the empty one lists its keys in ascending order.  The
look-up laws below need no such hypothesis: they hold for every list of
entries.
-/

namespace RoutedGraph

universe u v w

/-- A finite map, written as its entries. -/
structure Dict (κ : Type u) (β : Type v) where
  entries : List (κ × β)
  deriving DecidableEq

namespace Dict

variable {κ : Type u} {β : Type v}

def empty : Dict κ β := ⟨[]⟩

instance : Inhabited (Dict κ β) := ⟨empty⟩

def keys (dict : Dict κ β) : List κ := dict.entries.map Prod.fst

def values (dict : Dict κ β) : List β := dict.entries.map Prod.snd

def size (dict : Dict κ β) : Nat := dict.entries.length

def isEmpty (dict : Dict κ β) : Bool := dict.entries.isEmpty

section Lookup

variable [DecidableEq κ]

/-- The value of the first entry with this key. -/
def find? (key : κ) : List (κ × β) → Option β
  | [] => none
  | (other, value) :: rest => if other = key then some value else find? key rest

def replace (key : κ) (value : β) : List (κ × β) → List (κ × β)
  | [] => []
  | (other, old) :: rest =>
      if other = key then (other, value) :: rest else (other, old) :: replace key value rest

def get? (dict : Dict κ β) (key : κ) : Option β := find? key dict.entries

/-- The value stored under a key, or a fallback. -/
def getD (dict : Dict κ β) (key : κ) (fallback : β) : β := (dict.get? key).getD fallback

def contains (dict : Dict κ β) (key : κ) : Bool := (dict.get? key).isSome

def erase (dict : Dict κ β) (key : κ) : Dict κ β :=
  ⟨dict.entries.filter fun entry => decide (entry.1 ≠ key)⟩

/-- Put a new entry before the first greater key. -/
def place [Ord κ] (key : κ) (value : β) : List (κ × β) → List (κ × β)
  | [] => [(key, value)]
  | (other, old) :: rest =>
      if compare key other = .lt then (key, value) :: (other, old) :: rest
      else (other, old) :: place key value rest

/-- Store a value under a key, in place of the value it had. -/
def insert [Ord κ] (dict : Dict κ β) (key : κ) (value : β) : Dict κ β :=
  if dict.contains key then ⟨replace key value dict.entries⟩ else ⟨place key value dict.entries⟩

/-- Insert entries from left to right, so that the last one of a key wins. -/
def ofList [Ord κ] (entries : List (κ × β)) : Dict κ β :=
  entries.foldl (fun dict entry => dict.insert entry.1 entry.2) empty

/-- Insert all entries of a second dictionary; they win over the first's. -/
def extend [Ord κ] (dict other : Dict κ β) : Dict κ β :=
  other.entries.foldl (fun grown entry => grown.insert entry.1 entry.2) dict

@[simp]
theorem get?_empty (key : κ) : (empty : Dict κ β).get? key = none := rfl

theorem find?_replace (key other : κ) (value : β) (entries : List (κ × β)) :
    find? other (replace key value entries) =
      if key = other ∧ (find? key entries).isSome then some value else find? other entries := by
  induction entries with
  | nil => simp [find?, replace]
  | cons entry rest ih =>
      obtain ⟨present, old⟩ := entry
      by_cases here : present = key
      · subst here
        by_cases same : present = other <;> simp [find?, replace, same]
      · by_cases same : present = other
        · subst same
          simp [find?, replace, here, Ne.symm here]
        · simp [find?, replace, here, same, ih]

theorem find?_place [Ord κ] (key other : κ) (value : β) (entries : List (κ × β))
    (absent : find? key entries = none) :
    find? other (place key value entries) =
      if key = other then some value else find? other entries := by
  induction entries with
  | nil => simp [find?, place]
  | cons entry rest ih =>
      obtain ⟨present, old⟩ := entry
      by_cases here : present = key
      · simp [find?, here] at absent
      · simp only [find?, if_neg here] at absent
        by_cases before : compare key present = .lt
        · simp [place, before, find?]
        · by_cases same : present = other
          · subst same
            simp [place, before, find?, Ne.symm here]
          · simp [place, before, find?, same, ih absent]

/-- Reading after writing: the written key answers the new value, all others what they did. -/
theorem get?_insert [Ord κ] (dict : Dict κ β) (key other : κ) (value : β) :
    (dict.insert key value).get? other = if key = other then some value else dict.get? other := by
  unfold insert
  split
  · next present =>
      have found : (find? key dict.entries).isSome := present
      simp [get?, find?_replace, found]
  · next absent =>
      have missing : find? key dict.entries = none := by
        simpa [contains, get?] using absent
      simp only [get?]
      exact find?_place key other value dict.entries missing

@[simp]
theorem get?_insert_self [Ord κ] (dict : Dict κ β) (key : κ) (value : β) :
    (dict.insert key value).get? key = some value := by
  simp [get?_insert]

theorem get?_insert_of_ne [Ord κ] (dict : Dict κ β) {key other : κ} (different : key ≠ other)
    (value : β) : (dict.insert key value).get? other = dict.get? other := by
  simp [get?_insert, different]

/-- Reading after erasing: the erased key is gone, all others answer what they did. -/
theorem get?_erase (dict : Dict κ β) (key other : κ) :
    (dict.erase key).get? other = if key = other then none else dict.get? other := by
  simp only [get?, erase]
  induction dict.entries with
  | nil => simp [find?]
  | cons entry rest ih =>
      obtain ⟨present, old⟩ := entry
      by_cases here : present = key
      · subst here
        simp only [ne_eq, decide_not, List.filter_cons, decide_true, Bool.not_true,
          Bool.false_eq_true, if_false]
        rw [show (fun entry : κ × β => !decide (entry.1 = present)) =
          fun entry => decide (entry.1 ≠ present) from by funext entry; simp, ih]
        by_cases same : present = other <;> simp [find?, same]
      · by_cases same : present = other
        · subst same
          simp [here, find?, Ne.symm here]
        · simp [here, find?, same] at ih ⊢
          exact ih

@[simp]
theorem get?_erase_self (dict : Dict κ β) (key : κ) : (dict.erase key).get? key = none := by
  simp [get?_erase]

theorem get?_erase_of_ne (dict : Dict κ β) {key other : κ} (different : key ≠ other) :
    (dict.erase key).get? other = dict.get? other := by
  simp [get?_erase, different]

end Lookup

def mapValues {γ : Type w} (change : β → γ) (dict : Dict κ β) : Dict κ γ :=
  ⟨dict.entries.map fun entry => (entry.1, change entry.2)⟩

end Dict

end RoutedGraph
