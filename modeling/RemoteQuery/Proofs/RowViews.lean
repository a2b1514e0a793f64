import RemoteQuery.Row

/-!
# Two views of a row by name

A name may stand over several cells of a row, and a column may have no cell at all. Asked by a
name, a row answers with the first of its cells; in the map of the row the last of them is left. So
the two views agree on a name just when those two cells are the same, as they are when the name
stands over one cell.
-/
namespace RemoteQuery.Row

/-- The column at the position has the name, and the row is wide enough to have a cell there. -/
structure CellAt (row : Row) (name : String) (index : Nat) (cell : Option String) : Prop where
  named : (row.columns[index]?).map Column.name = some name
  stored : row.values[index]? = some cell

/-- The first cell under the name. -/
def First (row : Row) (name : String) (cell : Option String) : Prop :=
  ∃ index, row.CellAt name index cell ∧
    ∀ other another, row.CellAt name other another → index ≤ other

/-- The last cell under the name. -/
def Last (row : Row) (name : String) (cell : Option String) : Prop :=
  ∃ index, row.CellAt name index cell ∧
    ∀ other another, row.CellAt name other another → other ≤ index

variable {row : Row} {name : String} {index : Nat} {cell : Option String}

theorem CellAt.unique {another : Option String} (h : row.CellAt name index cell)
    (other : row.CellAt name index another) : cell = another :=
  Option.some.inj (h.stored.symm.trans other.stored)

theorem First.unique {another : Option String} (h : row.First name cell)
    (other : row.First name another) : cell = another := by
  obtain ⟨index, here, least⟩ := h
  obtain ⟨place, there, leastToo⟩ := other
  have same : index = place := Nat.le_antisymm (least _ _ there) (leastToo _ _ here)
  subst same
  exact here.unique there

theorem Last.unique {another : Option String} (h : row.Last name cell)
    (other : row.Last name another) : cell = another := by
  obtain ⟨index, here, most⟩ := h
  obtain ⟨place, there, mostToo⟩ := other
  have same : index = place := Nat.le_antisymm (mostToo _ _ here) (most _ _ there)
  subst same
  exact here.unique there

theorem entries_eq_some_iff :
    row.entries[index]? = some (name, cell) ↔ row.CellAt name index cell := by
  rw [entries, List.getElem?_zip_eq_some, List.getElem?_map]
  exact ⟨fun h => ⟨h.1, h.2⟩, fun h => ⟨h.named, h.stored⟩⟩

theorem CellAt.mem (h : row.CellAt name index cell) : (name, cell) ∈ row.entries :=
  List.mem_of_getElem? (entries_eq_some_iff.mpr h)

theorem getElem?_length_append {α : Type} {entry : α} (before : List α) {after : List α} :
    (before ++ entry :: after)[before.length]? = some entry := by
  rw [List.getElem?_append_right (Nat.le_refl _), Nat.sub_self, List.getElem?_cons_zero]

/-- The entry at a position that has no entry of its name before it is the first. -/
theorem first_of_split {before after : List (String × Option String)}
    (split : row.entries = before ++ (name, cell) :: after)
    (absent : ∀ entry ∈ before, entry.1 ≠ name) : row.First name cell := by
  refine ⟨before.length, entries_eq_some_iff.mp (split ▸ getElem?_length_append before), ?_⟩
  intro other another there
  refine Nat.le_of_not_lt fun earlier => ?_
  have listed := entries_eq_some_iff.mpr there
  rw [split, List.getElem?_append_left earlier] at listed
  exact absent _ (List.mem_of_getElem? listed) rfl

theorem last_of_split {before after : List (String × Option String)}
    (split : row.entries = before ++ (name, cell) :: after)
    (absent : ∀ entry ∈ after, entry.1 ≠ name) : row.Last name cell := by
  refine ⟨before.length, entries_eq_some_iff.mp (split ▸ getElem?_length_append before), ?_⟩
  intro other another there
  refine Nat.le_of_not_lt fun later => ?_
  obtain ⟨more, rfl⟩ := Nat.exists_eq_add_of_lt later
  have listed := entries_eq_some_iff.mpr there
  rw [split, Nat.add_assoc, List.getElem?_append_right (Nat.le_add_right _ _),
    Nat.add_sub_cancel_left, List.getElem?_cons_succ] at listed
  exact absent _ (List.mem_of_getElem? listed) rfl

theorem getByName?_eq_some_iff {text : String} :
    row.getByName? name = some text ↔ row.First name (some text) := by
  constructor
  · intro found
    rw [getByName?] at found
    split at found
    · rename_i index here
      obtain ⟨within, named, before⟩ := List.findIdx?_eq_some_iff_getElem.mp here
      refine ⟨index, ⟨?_, Option.join_eq_some_iff.mp found⟩, ?_⟩
      · rw [List.getElem?_eq_getElem within, Option.map_some, beq_iff_eq.mp named]
      · intro other another there
        refine Nat.le_of_not_lt fun less => ?_
        have same := there.named
        rw [List.getElem?_eq_getElem (Nat.lt_trans less within), Option.map_some,
          Option.some.injEq] at same
        exact before other less (beq_iff_eq.mpr same)
    · cases found
  · rintro ⟨index, here, least⟩
    obtain ⟨column, listed, named⟩ := Option.map_eq_some_iff.mp here.named
    obtain ⟨within, rfl⟩ := List.getElem?_eq_some_iff.mp listed
    have reached : index < row.values.length := (List.getElem?_eq_some_iff.mp here.stored).1
    have first : row.columns.findIdx? (fun column => column.name == name) = some index := by
      refine List.findIdx?_eq_some_iff_getElem.mpr ⟨within, beq_iff_eq.mpr named, ?_⟩
      intro earlier less same
      have there : row.CellAt name earlier row.values[earlier] := by
        refine ⟨?_, List.getElem?_eq_getElem (Nat.lt_trans less reached)⟩
        rw [List.getElem?_eq_getElem (Nat.lt_trans less within), Option.map_some,
          beq_iff_eq.mp same]
      exact Nat.not_le_of_lt less (least _ _ there)
    rw [getByName?, first]
    simp only [get?, here.stored, Option.join_some]

theorem lookup_cons_eq (key : String) (value : Option String)
    (map : List (String × Option String)) :
    ((key, value) :: map).lookup name = if name = key then some value else map.lookup name := by
  by_cases asked : name = key
  · rw [List.lookup_cons, asked, BEq.rfl, if_pos rfl]
  · rw [List.lookup_cons, beq_false_of_ne asked, if_neg asked]

theorem lookup_insert (key : String) (value : Option String) (map : List (String × Option String)) :
    (insert (key, value) map).lookup name =
      if name = key then some value else map.lookup name := by
  induction map with
  | nil => exact lookup_cons_eq key value []
  | cons entry map ih =>
    obtain ⟨other, old⟩ := entry
    rw [insert]
    by_cases same : other = key
    · rw [if_pos same, lookup_cons_eq, lookup_cons_eq, same]
      by_cases asked : name = key <;> simp [asked]
    · rw [if_neg same, lookup_cons_eq, lookup_cons_eq, ih]
      by_cases asked : name = other
      · simp [asked, same]
      · simp [asked]

/-- What is under a name after all the entries is what the last of them has put there. -/
theorem lookup_foldl_insert (entries map : List (String × Option String)) :
    (entries.foldl (fun map entry => insert entry map) map).lookup name =
      (entries.reverse.lookup name).or (map.lookup name) := by
  induction entries generalizing map with
  | nil => rfl
  | cons entry entries ih =>
    obtain ⟨key, value⟩ := entry
    rw [List.foldl_cons, ih, lookup_insert, List.reverse_cons, List.lookup_append, Option.or_assoc,
      lookup_cons_eq]
    by_cases asked : name = key <;> simp [asked]

theorem lookup_toMap (row : Row) (name : String) :
    row.toMap.lookup name = row.entries.reverse.lookup name := by
  rw [toMap, lookup_foldl_insert, List.lookup_nil, Option.or_none]

theorem last_of_lookup_toMap (found : row.toMap.lookup name = some cell) : row.Last name cell := by
  rw [lookup_toMap] at found
  obtain ⟨after, before, split, absent⟩ := List.lookup_eq_some_iff.mp found
  rw [List.reverse_eq_iff, List.reverse_append, List.reverse_cons, List.append_assoc] at split
  refine last_of_split split ?_
  intro entry member same
  exact bne_iff_ne.mp (absent entry (List.mem_reverse.mp member)) same.symm

theorem exists_lookup {entries : List (String × Option String)} (h : (name, cell) ∈ entries) :
    ∃ found, entries.lookup name = some found := by
  refine Option.ne_none_iff_exists'.mp fun absent => ?_
  exact bne_iff_ne.mp (List.lookup_eq_none_iff.mp absent _ h) rfl

theorem exists_last (h : row.CellAt name index cell) :
    ∃ last, row.toMap.lookup name = some last ∧ row.Last name last := by
  obtain ⟨last, found⟩ := exists_lookup (List.mem_reverse.mpr h.mem)
  rw [← lookup_toMap] at found
  exact ⟨last, found, last_of_lookup_toMap found⟩

theorem lookup_toMap_eq_some_iff : row.toMap.lookup name = some cell ↔ row.Last name cell := by
  refine ⟨last_of_lookup_toMap, ?_⟩
  intro isLast
  obtain ⟨index, here, most⟩ := isLast
  obtain ⟨last, found, isLast⟩ := exists_last here
  rw [found, isLast.unique ⟨index, here, most⟩]

theorem exists_first (h : row.CellAt name index cell) : ∃ first, row.First name first := by
  obtain ⟨first, found⟩ := exists_lookup h.mem
  obtain ⟨before, after, split, absent⟩ := List.lookup_eq_some_iff.mp found
  refine ⟨first, first_of_split split ?_⟩
  intro entry member same
  exact bne_iff_ne.mp (absent entry member) same.symm

theorem getByName?_of_first (h : row.First name cell) : row.getByName? name = cell := by
  cases found : row.getByName? name with
  | some text => exact (getByName?_eq_some_iff.mp found).unique h
  | none =>
    cases cell with
    | none => rfl
    | some text =>
      rw [getByName?_eq_some_iff.mpr h] at found
      cases found

/-- A row asked by a name answers with the first cell under it, and the map of the row has the last
one; a NULL and no cell at all are the same answer. So the two agree on a name just when the first
and the last cell under it are the same. -/
theorem views_agree_iff (row : Row) (name : String) :
    (∀ text, row.getByName? name = some text ↔ row.First name (some text)) ∧
    (∀ cell, row.toMap.lookup name = some cell ↔ row.Last name cell) ∧
    (row.getByName? name = (row.toMap.lookup name).join ↔
      ∀ first last, row.First name first → row.Last name last → first = last) := by
  refine ⟨fun _ => getByName?_eq_some_iff, fun _ => lookup_toMap_eq_some_iff, ?_⟩
  constructor
  · intro agree first last isFirst isLast
    rw [getByName?_of_first isFirst, lookup_toMap_eq_some_iff.mpr isLast] at agree
    exact agree
  · intro same
    by_cases any : ∃ index cell, row.CellAt name index cell
    · obtain ⟨index, cell, here⟩ := any
      obtain ⟨first, isFirst⟩ := exists_first here
      obtain ⟨last, found, isLast⟩ := exists_last here
      rw [getByName?_of_first isFirst, found]
      exact same first last isFirst isLast
    · have unasked : row.getByName? name = none := by
        rw [Option.eq_none_iff_forall_ne_some]
        intro text found
        obtain ⟨index, here, _⟩ := getByName?_eq_some_iff.mp found
        exact any ⟨index, _, here⟩
      have unlisted : row.toMap.lookup name = none := by
        rw [Option.eq_none_iff_forall_ne_some]
        intro cell found
        obtain ⟨index, here, _⟩ := last_of_lookup_toMap found
        exact any ⟨index, _, here⟩
      rw [unasked, unlisted, Option.join_none]

/-- Two columns of one name with different cells. -/
theorem not_views_agree :
    ¬ ∀ (row : Row) (name : String), row.getByName? name = (row.toMap.lookup name).join := by
  intro agree
  have here := agree ⟨[⟨"a", "varchar", 0, 0, .unknown⟩, ⟨"a", "varchar", 0, 0, .unknown⟩],
    [some "1", some "2"]⟩ "a"
  exact absurd here (by decide)

end RemoteQuery.Row
