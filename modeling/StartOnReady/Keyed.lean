/-!
# Tables with text keys

A table is a list of key and value pairs.  `insert` keeps the keys in rising order and lets the
last binding of a key win; `find?_insert` says what a table built this way holds, and
`nodup_keys_ofList` that it has each key once.
-/

namespace StartOnReady.Keyed

variable {α : Type}

/-- The first value bound to `key`. -/
def find? (key : String) : List (String × α) → Option α
  | [] => none
  | (k, v) :: rest => if key = k then some v else find? key rest

/-- Binds `key` at the place its order gives it; a former binding gives way. -/
def insert (key : String) (value : α) : List (String × α) → List (String × α)
  | [] => [(key, value)]
  | (k, v) :: rest =>
    if key = k then (key, value) :: rest
    else if key < k then (key, value) :: (k, v) :: rest
    else (k, v) :: insert key value rest

/-- The table of the given bindings; a later binding of a key wins. -/
def ofList (bindings : List (String × α)) : List (String × α) :=
  bindings.foldl (fun table binding => insert binding.1 binding.2 table) []

theorem find?_insert (key other : String) (value : α) (table : List (String × α)) :
    find? other (insert key value table) =
      if other = key then some value else find? other table := by
  induction table with
  | nil => simp [insert, find?]
  | cons entry rest ih =>
    obtain ⟨k, v⟩ := entry
    by_cases same : key = k
    · subst same
      by_cases hit : other = key <;> simp [insert, find?, hit]
    · by_cases before : key < k
      · simp [insert, same, before, find?]
      · by_cases hit : other = k
        · subst hit
          simp [insert, same, before, find?, Ne.symm same]
        · simp [insert, same, before, find?, hit, ih]

theorem find?_eq_none_iff {key : String} {table : List (String × α)} :
    find? key table = none ↔ key ∉ table.map Prod.fst := by
  induction table with
  | nil => simp [find?]
  | cons entry rest ih =>
    obtain ⟨k, v⟩ := entry
    by_cases here : key = k
    · simp [find?, here]
    · simp [find?, here, ih]

theorem mem_of_find? {key : String} {value : α} {table : List (String × α)}
    (h : find? key table = some value) : (key, value) ∈ table := by
  induction table with
  | nil => exact absurd h nofun
  | cons entry rest ih =>
    obtain ⟨k, v⟩ := entry
    by_cases here : key = k
    · subst here
      rw [find?, if_pos rfl] at h
      exact Option.some.inj h ▸ List.mem_cons_self
    · rw [find?, if_neg here] at h
      exact List.mem_cons_of_mem _ (ih h)

theorem find?_of_mem {table : List (String × α)} (distinct : (table.map Prod.fst).Nodup)
    {entry : String × α} (member : entry ∈ table) : find? entry.1 table = some entry.2 := by
  induction table with
  | nil => exact absurd member List.not_mem_nil
  | cons first rest ih =>
    obtain ⟨fresh, distinct⟩ := List.nodup_cons.1 distinct
    rcases List.mem_cons.1 member with rfl | later
    · rw [find?, if_pos rfl]
    · have other : entry.1 ≠ first.1 := fun same =>
        fresh (same ▸ List.mem_map.2 ⟨entry, later, rfl⟩)
      rw [find?, if_neg other, ih distinct later]

theorem find?_mapValues {β : Type} (key : String) (f : α → β) (table : List (String × α)) :
    find? key (table.map fun entry => (entry.1, f entry.2)) = (find? key table).map f := by
  induction table with
  | nil => rfl
  | cons entry rest ih =>
    obtain ⟨k, v⟩ := entry
    by_cases here : key = k
    · simp [find?, here]
    · simp [find?, here, ih]

theorem find?_append (key : String) (left right : List (String × α)) :
    find? key (left ++ right) = (find? key left).or (find? key right) := by
  induction left with
  | nil => rfl
  | cons entry rest ih =>
    obtain ⟨k, v⟩ := entry
    by_cases here : key = k
    · simp [find?, here]
    · simp [find?, here, ih]

theorem find?_foldl_insert (key : String) (bindings table : List (String × α)) :
    find? key (bindings.foldl (fun table binding => insert binding.1 binding.2 table) table) =
      (find? key bindings.reverse).or (find? key table) := by
  induction bindings generalizing table with
  | nil => rfl
  | cons entry rest ih =>
    obtain ⟨k, v⟩ := entry
    rw [List.foldl_cons, ih, find?_insert, List.reverse_cons, find?_append, Option.or_assoc]
    by_cases here : key = k
    · simp [find?, here]
    · simp [find?, here]

/-- A table holds the last binding of each key. -/
theorem find?_ofList_reverse (key : String) (bindings : List (String × α)) :
    find? key (ofList bindings) = find? key bindings.reverse := by
  rw [ofList, find?_foldl_insert]
  exact Option.or_none

/-- A key that stands once is found from either end. -/
theorem find?_reverse_of_count_le_one {key : String} {bindings : List (String × α)}
    (once : (bindings.map Prod.fst).count key ≤ 1) :
    find? key bindings.reverse = find? key bindings := by
  induction bindings with
  | nil => rfl
  | cons entry rest ih =>
    obtain ⟨k, v⟩ := entry
    rw [List.map_cons, List.count_cons] at once
    rw [List.reverse_cons, find?_append, ih (by omega)]
    by_cases here : key = k
    · subst here
      rw [beq_self_eq_true, if_pos rfl] at once
      have fresh : key ∉ rest.map Prod.fst := List.count_eq_zero.1 (by omega)
      simp [find?, find?_eq_none_iff.2 fresh]
    · simp [find?, here]

/-- A table that is built from different keys holds all of them. -/
theorem find?_ofList {bindings : List (String × α)} (distinct : (bindings.map Prod.fst).Nodup)
    (key : String) : find? key (ofList bindings) = find? key bindings := by
  have once := List.nodup_iff_count.1 distinct key
  rw [find?_ofList_reverse, find?_reverse_of_count_le_one once]

/-! ### Order of the keys -/

/-- Whether the keys of a table are in strictly rising order. -/
def IsSorted (table : List (String × α)) : Prop := table.Pairwise fun a b => a.1 < b.1

theorem isSorted_of_keys {table : List (String × α)}
    (h : (table.map Prod.fst).Pairwise (· < ·)) : IsSorted table := List.pairwise_map.1 h

theorem eq_or_mem_of_mem_insert {key : String} {value : α} {table : List (String × α)}
    {entry : String × α} (h : entry ∈ insert key value table) :
    entry = (key, value) ∨ entry ∈ table := by
  induction table with
  | nil => exact Or.inl (List.mem_singleton.1 h)
  | cons first rest ih =>
    unfold insert at h
    split at h
    · exact (List.mem_cons.1 h).imp_right (List.mem_cons_of_mem _)
    · split at h
      · exact List.mem_cons.1 h
      · rcases List.mem_cons.1 h with rfl | later
        · exact Or.inr List.mem_cons_self
        · exact (ih later).imp_right (List.mem_cons_of_mem _)

theorem IsSorted.insert {table : List (String × α)} (h : IsSorted table) (key : String)
    (value : α) : IsSorted (insert key value table) := by
  induction table with
  | nil => exact List.pairwise_singleton _ _
  | cons first rest ih =>
    obtain ⟨k, v⟩ := first
    obtain ⟨above, sorted⟩ := List.pairwise_cons.1 h
    unfold Keyed.insert
    split
    next same =>
      subst same
      exact List.pairwise_cons.2 ⟨above, sorted⟩
    next other =>
      split
      next before =>
        refine List.pairwise_cons.2 ⟨fun entry member => ?_, h⟩
        rcases List.mem_cons.1 member with rfl | later
        · exact before
        · exact String.lt_trans before (above entry later)
      next notBefore =>
        have after : k < key := Decidable.byContradiction fun notAfter =>
          other (String.le_antisymm (String.not_lt.1 notAfter) (String.not_lt.1 notBefore))
        refine List.pairwise_cons.2 ⟨fun entry member => ?_, ih sorted⟩
        rcases eq_or_mem_of_mem_insert member with rfl | later
        · exact after
        · exact above entry later

theorem isSorted_ofList (bindings : List (String × α)) : IsSorted (ofList bindings) :=
  List.foldlRecOn bindings _ List.Pairwise.nil fun _ sorted binding _ =>
    sorted.insert binding.1 binding.2

theorem IsSorted.nodup_keys {table : List (String × α)} (h : IsSorted table) :
    (table.map Prod.fst).Nodup := by
  rw [List.Nodup, List.pairwise_map]
  refine h.imp fun {a b} rising same => ?_
  rw [same] at rising
  exact String.lt_irrefl _ rising

/-- A table built from bindings has each key once. -/
theorem nodup_keys_ofList (bindings : List (String × α)) :
    ((ofList bindings).map Prod.fst).Nodup := (isSorted_ofList bindings).nodup_keys

end StartOnReady.Keyed
