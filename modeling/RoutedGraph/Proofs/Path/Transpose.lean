import RoutedGraph.Proofs.Route.Stacks

/-!
# Transposed paths

Paths of one length are the rows of a matrix, and transposing them swaps the two
positions of every slot.  A matrix is given by its numbers of rows and columns
and by its slots, so that transposing twice leads back unless there is nothing
that could tell the number of rows.
-/

namespace RoutedGraph

namespace Path

theorem firstMisfit_eq_none_iff (width start : Nat) (paths : List Path) :
    firstMisfit width start paths = none ↔ ∀ path ∈ paths, path.length = width := by
  induction paths generalizing start with
  | nil => simp [firstMisfit]
  | cons path rest ih =>
      by_cases fits : path.length = width
      · simp [firstMisfit, fits, ih]
      · simp [firstMisfit, fits]

/-- The first path that has another length comes after paths of the right one. -/
theorem firstMisfit_eq_some_iff (width start position : Nat) (paths : List Path) (misfit : Path) :
    firstMisfit width start paths = some (position, misfit) ↔
      ∃ offset, start + offset = position ∧ paths[offset]? = some misfit ∧
        misfit.length ≠ width ∧ ∀ earlier ∈ paths.take offset, earlier.length = width := by
  induction paths generalizing start with
  | nil => simp [firstMisfit]
  | cons path rest ih =>
      by_cases fits : path.length = width
      · rw [firstMisfit, if_pos fits, ih]
        constructor
        · rintro ⟨offset, rfl, found, differs, uniform⟩
          exact ⟨offset + 1, by omega, found, differs, by simpa [fits] using uniform⟩
        · rintro ⟨offset, rfl, found, differs, uniform⟩
          cases offset with
          | zero =>
              obtain rfl := Option.some.inj found
              exact absurd fits differs
          | succ offset =>
              exact ⟨offset, by omega, found, differs, by simpa [fits] using uniform⟩
      · rw [firstMisfit, if_neg fits]
        constructor
        · rintro ⟨⟩
          exact ⟨0, rfl, rfl, fits, by simp⟩
        · rintro ⟨offset, rfl, found, -, uniform⟩
          cases offset with
          | zero => simpa using found
          | succ offset => exact absurd (uniform path (by simp)) fits

theorem length_columns {width : Nat} {rows : List (List Slot)}
    (uniform : ∀ row ∈ rows, row.length = width) : (columns width rows).length = width := by
  induction rows with
  | nil => simp [columns]
  | cons row rest ih =>
      obtain ⟨first, others⟩ := List.forall_mem_cons.mp uniform
      have grown := ih others
      simp only [columns] at grown
      simp [columns, prependRow, grown, first]

/-- A column has one slot of every row. -/
theorem getElem?_columns {width : Nat} {rows : List (List Slot)}
    (uniform : ∀ row ∈ rows, row.length = width) {position : Nat} (inside : position < width) :
    (columns width rows)[position]? = some (rows.map fun row => row[position]?.getD none) := by
  induction rows with
  | nil => simp [columns, inside]
  | cons row rest ih =>
      obtain ⟨first, others⟩ := List.forall_mem_cons.mp uniform
      have below := ih others
      have own : row[position]? = some row[position] := List.getElem?_eq_getElem (first ▸ inside)
      simp only [columns] at below
      simp [columns, prependRow, List.getElem?_zipWith, below, own]

/-- The slot at a position of the path at a position. -/
def slotOf? (paths : List Path) (row column : Nat) : Option Slot :=
  paths[row]?.bind fun path => path.slots[column]?

/-- Paths of one length, as many as the others are long, with the slots of the others at swapped
positions. -/
structure Transposed (width : Nat) (paths turned : List Path) : Prop where
  rows : turned.length = width
  columns : ∀ path ∈ turned, path.length = paths.length
  slots : ∀ row column, slotOf? turned row column = slotOf? paths column row

theorem transposed_columns {width : Nat} {paths : List Path}
    (uniform : ∀ path ∈ paths, path.length = width) :
    Transposed width paths ((columns width (paths.map Path.slots)).map Path.mk) := by
  have rows : ∀ row ∈ paths.map Path.slots, row.length = width :=
    List.forall_mem_map.mpr uniform
  have length := length_columns rows
  refine ⟨by simpa using length, ?_, ?_⟩
  · intro path member
    obtain ⟨column, among, rfl⟩ := List.mem_map.mp member
    obtain ⟨position, found⟩ := List.mem_iff_getElem?.mp among
    have inside : position < width := length ▸ (List.getElem?_eq_some_iff.mp found).1
    rw [getElem?_columns rows inside] at found
    obtain rfl := Option.some.inj found
    simp [Path.length]
  · intro row column
    by_cases inside : row < width
    · simp only [slotOf?, List.getElem?_map, getElem?_columns rows inside, Option.map_some,
        Option.bind_some]
      cases found : paths[column]? with
      | none => rfl
      | some path =>
          have long : path.slots.length = width := uniform path (List.mem_of_getElem? found)
          simp [List.getElem?_eq_getElem (long.symm ▸ inside : row < path.slots.length)]
    · have outside : (columns width (paths.map Path.slots))[row]? = none :=
        List.getElem?_eq_none (by omega)
      simp only [slotOf?, List.getElem?_map, outside, Option.map_none, Option.bind_none]
      cases found : paths[column]? with
      | none => rfl
      | some path =>
          have short : path.slots.length = width := uniform path (List.mem_of_getElem? found)
          exact (List.getElem?_eq_none (by omega)).symm

/-- As many paths with the same slots are the same paths. -/
theorem eq_of_slotOf?_eq {first second : List Path} (size : first.length = second.length)
    (same : ∀ row column, slotOf? first row column = slotOf? second row column) :
    first = second := by
  refine List.ext_getElem size fun row inside otherInside => ?_
  have slots : first[row].slots = second[row].slots := by
    refine List.ext_getElem? fun column => ?_
    have entry := same row column
    rwa [slotOf?, slotOf?, List.getElem?_eq_getElem inside,
      List.getElem?_eq_getElem otherInside] at entry
  exact congrArg Path.mk slots

theorem transpose_of_uniform {width : Nat} {paths : List Path} (listed : paths ≠ [])
    (uniform : ∀ path ∈ paths, path.length = width) :
    ∃ turned, transpose paths = .ok turned ∧ Transposed width paths turned := by
  refine ⟨_, ?_, transposed_columns uniform⟩
  cases paths with
  | nil => exact absurd rfl listed
  | cons first rest =>
      obtain rfl := uniform first List.mem_cons_self
      simp only [transpose, (firstMisfit_eq_none_iff _ 0 _).mpr uniform]

/-- Transposing twice leads back. -/
theorem Transposed.transpose_eq {width : Nat} {paths turned : List Path}
    (transposed : Transposed width paths turned) (positive : width ≠ 0) :
    transpose turned = .ok paths := by
  have listed : turned ≠ [] := by
    rintro rfl
    exact positive transposed.rows.symm
  obtain ⟨again, succeeds, back⟩ := transpose_of_uniform listed transposed.columns
  rw [succeeds, eq_of_slotOf?_eq back.rows fun row column =>
    (back.slots row column).trans (transposed.slots column row)]

/-- The failure names the first path that differs in length from the first of all. -/
theorem transpose_eq_error_iff (paths : List Path) (error : RouteError) :
    transpose paths = .error error ↔
      ∃ first misfit position, paths.head? = some first ∧ paths[position]? = some misfit ∧
        misfit.length ≠ first.length ∧
        (∀ earlier ∈ paths.take position, earlier.length = first.length) ∧
        error = .shapeMismatch first.length misfit.length position := by
  cases paths with
  | nil => simp [transpose]
  | cons first rest =>
      have named (position : Nat) (misfit : Path) :=
        firstMisfit_eq_some_iff first.length 0 position (first :: rest) misfit
      simp only [Nat.zero_add, exists_eq_left] at named
      constructor
      · intro failed
        simp only [transpose] at failed
        split at failed
        · next position misfit found =>
            obtain ⟨among, differs, uniform⟩ := (named position misfit).mp found
            exact ⟨first, misfit, position, rfl, among, differs, uniform,
              (Except.error.inj failed).symm⟩
        · cases failed
      · rintro ⟨_, misfit, position, ⟨⟩, among, differs, uniform, rfl⟩
        simp only [transpose, (named position misfit).mpr ⟨among, differs, uniform⟩]

/-- Transposing succeeds exactly if all paths have one length. -/
theorem transpose_isOk_iff (paths : List Path) :
    (∃ turned, transpose paths = .ok turned) ↔
      ∀ first ∈ paths, ∀ second ∈ paths, first.length = second.length := by
  cases paths with
  | nil => simp [transpose]
  | cons first rest =>
      constructor
      · rintro ⟨turned, succeeds⟩
        have uniform : ∀ path ∈ first :: rest, path.length = first.length := by
          simp only [transpose] at succeeds
          split at succeeds
          · cases succeeds
          · next fits => exact (firstMisfit_eq_none_iff _ 0 _).mp fits
        intro one oneMember other otherMember
        rw [uniform one oneMember, uniform other otherMember]
      · intro same
        obtain ⟨turned, succeeds, -⟩ := transpose_of_uniform (List.cons_ne_nil first rest)
          fun path member => same path member first List.mem_cons_self
        exact ⟨turned, succeeds⟩

end Path

namespace Route

/-- A route over some paths is transposed as the paths are. -/
theorem transpose_ofItems (world : World) (paths : List Path) :
    (world.transpose (ofItems (paths.map Item.path) .path)).1 = Path.transpose paths := by
  have answers : ∀ item ∈ paths.map Item.path, Stage.through [] item = some (.ok (id item)) :=
    fun _ _ => rfl
  have collected : (world.collect (ofItems (paths.map Item.path) .path)).1 =
      .ok ((paths.map Item.path).map id) := world.collect_stack_of_values .path id answers
  have read : (paths.map Item.path).map Item.toPath = paths := by
    rw [List.map_map]
    exact List.map_id paths
  rw [List.map_id] at collected
  simp only [World.transpose, collected, Except.bind, read]

/-- Transposing is checked and swaps rows and columns.  It succeeds exactly if all paths have one
length, and else names the first one that differs from the first of all.  It makes as many paths
as the others are long, each with one slot of every path, and transposing these leads back unless
there are none. -/
theorem transpose_paths (world : World) (paths : List Path) :
    let transposed := fun paths : List Path =>
      (world.transpose (ofItems (paths.map Item.path) .path)).1
    ((∃ turned, transposed paths = .ok turned) ↔
      ∀ first ∈ paths, ∀ second ∈ paths, first.length = second.length) ∧
    (∀ error, transposed paths = .error error ↔
      ∃ first misfit position, paths.head? = some first ∧ paths[position]? = some misfit ∧
        misfit.length ≠ first.length ∧
        (∀ earlier ∈ paths.take position, earlier.length = first.length) ∧
        error = .shapeMismatch first.length misfit.length position) ∧
    transposed [] = .ok [] ∧
    ∀ first, paths.head? = some first → ∀ turned, transposed paths = .ok turned →
      Path.Transposed first.length paths turned ∧
      (first.length ≠ 0 → transposed turned = .ok paths) := by
  intro transposed
  have same (paths : List Path) : transposed paths = Path.transpose paths :=
    transpose_ofItems world paths
  simp only [same]
  refine ⟨Path.transpose_isOk_iff paths, Path.transpose_eq_error_iff paths, rfl, ?_⟩
  intro first head turned succeeds
  obtain ⟨rest, rfl⟩ := List.head?_eq_some_iff.mp head
  have uniform := (Path.transpose_isOk_iff _).mp ⟨turned, succeeds⟩
  obtain ⟨made, makes, turns⟩ := Path.transpose_of_uniform (List.cons_ne_nil first rest)
    fun path member => uniform path member first List.mem_cons_self
  obtain rfl := Except.ok.inj (makes.symm.trans succeeds)
  exact ⟨turns, turns.transpose_eq⟩

/-- Two paths of three slots, with holes. -/
def oblong : List Path :=
  [⟨[some (.scalar (.int 1)), none, some (.scalar (.int 2))]⟩,
    ⟨[none, some (.scalar (.bool true)), none]⟩]

/-- Turned, the two paths are three, and turned again they are what they were; with an empty path
behind them they are refused. -/
theorem transpose_paths_oblong :
    let transposed := fun paths : List Path =>
      (World.empty.transpose (ofItems (paths.map Item.path) .path)).1
    (∃ turned, transposed oblong = .ok turned ∧ turned.length = 3 ∧
      Path.slotOf? turned 2 0 = some (some (.scalar (.int 2))) ∧
      Path.slotOf? turned 2 1 = some none ∧ transposed turned = .ok oblong) ∧
    transposed (oblong ++ [⟨[]⟩]) = .error (.shapeMismatch 3 0 2) := by
  intro transposed
  obtain ⟨succeeds, -, -, turns⟩ := transpose_paths World.empty oblong
  obtain ⟨turned, made⟩ := succeeds.mpr (by decide)
  obtain ⟨swapped, back⟩ := turns _ rfl turned made
  refine ⟨⟨turned, made, swapped.rows, ?_, ?_, back (by decide)⟩, ?_⟩
  · exact swapped.slots 2 0
  · exact swapped.slots 2 1
  · refine ((transpose_paths World.empty (oblong ++ [⟨[]⟩])).2.1 _).mpr ?_
    exact ⟨_, ⟨[]⟩, 2, rfl, rfl, by decide, by decide, rfl⟩

end Route

end RoutedGraph
