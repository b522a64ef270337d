import SearchOperator.Dictionary

/-!
# Look-ups in dictionaries

What setting a key does to the value of every key. A value that is set to what it was changes
nothing, because the order of the keys leaves one place for each.
-/

namespace SearchOperator

namespace Entries

variable {α : Type}

theorem get?_insert_self (key : String) (value : α) (entries : List (String × α)) :
    get? key (insert key value entries) = some value := by
  induction entries with
  | nil => simp [insert, get?]
  | cons entry rest ih =>
      obtain ⟨k, v⟩ := entry
      simp only [insert]
      split
      · simp [get?]
      · rename_i same
        have equal : key = k := Std.LawfulEqCmp.eq_of_compare same
        simp [get?, equal]
      · rename_i above
        have differ : key ≠ k := by
          rintro rfl
          have equal : compare key key = .eq := Std.ReflCmp.compare_self
          rw [equal] at above
          cases above
        simp [get?, differ, ih]

theorem get?_insert_of_ne {key other : String} (differ : other ≠ key) (value : α)
    (entries : List (String × α)) :
    get? other (insert key value entries) = get? other entries := by
  induction entries with
  | nil => simp [insert, get?, differ]
  | cons entry rest ih =>
      obtain ⟨k, v⟩ := entry
      simp only [insert]
      split
      · simp [get?, differ]
      · rename_i same
        have equal : key = k := Std.LawfulEqCmp.eq_of_compare same
        have apart : other ≠ k := equal ▸ differ
        simp [get?, apart]
      · simp only [get?]
        rw [ih]

/-- What is in the entries after a key is set was there before, or has the value that was set. -/
theorem value_of_mem_insert {key : String} {value : α} {entries : List (String × α)}
    {entry : String × α} (member : entry ∈ insert key value entries) :
    entry.2 = value ∨ entry ∈ entries := by
  induction entries with
  | nil =>
      rw [insert, List.mem_singleton] at member
      exact .inl (member ▸ rfl)
  | cons first rest ih =>
      obtain ⟨k, v⟩ := first
      simp only [insert] at member
      split at member
      · rcases List.mem_cons.mp member with rfl | member
        · exact .inl rfl
        · exact .inr member
      · rcases List.mem_cons.mp member with rfl | member
        · exact .inl rfl
        · exact .inr (List.mem_cons_of_mem _ member)
      · rcases List.mem_cons.mp member with rfl | member
        · exact .inr List.mem_cons_self
        · rcases ih member with found | found
          · exact .inl found
          · exact .inr (List.mem_cons_of_mem _ found)

/-- Every entry is found under its key. -/
theorem get?_of_mem {entries : List (String × α)} (sorted : Sorted entries) {key : String}
    {value : α} (member : (key, value) ∈ entries) : get? key entries = some value := by
  induction entries with
  | nil => cases member
  | cons first rest ih =>
      obtain ⟨above, rest_sorted⟩ := List.pairwise_cons.mp sorted
      rcases List.mem_cons.mp member with rfl | member
      · simp [get?]
      · have differ : key ≠ first.1 := by
          intro same
          have less : compare first.1 key = .lt := above _ member
          have equal : compare key key = .eq := Std.ReflCmp.compare_self
          rw [← same, equal] at less
          cases less
        rw [get?, if_neg differ]
        exact ih rest_sorted member

theorem mem_of_get? {entries : List (String × α)} {key : String} {value : α}
    (found : get? key entries = some value) : (key, value) ∈ entries := by
  induction entries with
  | nil => cases found
  | cons first rest ih =>
      obtain ⟨k, v⟩ := first
      rw [get?] at found
      split at found
      · rename_i same
        cases found
        exact same ▸ List.mem_cons_self
      · exact List.mem_cons_of_mem _ (ih found)

/-- To set a key to the value it has changes nothing. -/
theorem insert_of_mem {entries : List (String × α)} (sorted : Sorted entries) {key : String}
    {value : α} (member : (key, value) ∈ entries) : insert key value entries = entries := by
  induction entries with
  | nil => cases member
  | cons first rest ih =>
      obtain ⟨above, rest_sorted⟩ := List.pairwise_cons.mp sorted
      rcases List.mem_cons.mp member with rfl | member
      · simp [insert, Std.ReflCmp.compare_self]
      · have less : compare first.1 key = .lt := above _ member
        have more : compare key first.1 = .gt := Std.OrientedCmp.gt_of_lt less
        simp only [insert, more]
        rw [ih rest_sorted member]

/-- Of two values of one key, the one that is set last counts. -/
theorem insert_insert (key : String) (value later : α) (entries : List (String × α)) :
    insert key later (insert key value entries) = insert key later entries := by
  induction entries with
  | nil => simp [insert, Std.ReflCmp.compare_self]
  | cons first rest ih =>
      obtain ⟨k, v⟩ := first
      simp only [insert]
      cases order : compare key k with
      | lt => simp [insert, Std.ReflCmp.compare_self]
      | eq => simp [insert, order]
      | gt => simp [insert, order, ih]

/-- A key above all others is set at the end. -/
theorem insert_of_above {entries : List (String × α)} {key : String} (value : α)
    (above : ∀ entry ∈ entries, compare entry.1 key = .lt) :
    insert key value entries = entries ++ [(key, value)] := by
  induction entries with
  | nil => rfl
  | cons first rest ih =>
      have less : compare first.1 key = .lt := above first List.mem_cons_self
      have more : compare key first.1 = .gt := Std.OrientedCmp.gt_of_lt less
      have others : ∀ entry ∈ rest, compare entry.1 key = .lt :=
        fun entry member => above entry (List.mem_cons_of_mem first member)
      simp only [insert, more]
      rw [ih others, List.cons_append]

/-- To set the keys of ordered entries in turn appends them. -/
theorem foldl_insert_of_sorted (before entries : List (String × α))
    (sorted : Sorted (before ++ entries)) :
    entries.foldl (fun acc entry => insert entry.1 entry.2 acc) before = before ++ entries := by
  induction entries generalizing before with
  | nil => rw [List.append_nil, List.foldl_nil]
  | cons first rest ih =>
      have above : ∀ entry ∈ before, compare entry.1 first.1 = .lt := fun entry member =>
        (List.pairwise_append.mp sorted).2.2 entry member first List.mem_cons_self
      have shifted : before ++ first :: rest = (before ++ [first]) ++ rest := by simp
      rw [List.foldl_cons, insert_of_above first.2 above, shifted]
      exact ih _ (shifted ▸ sorted)

theorem sorted_of_keys {β : Type} {entries : List (String × α)} {others : List (String × β)}
    (keys : others.map Prod.fst = entries.map Prod.fst) (sorted : Sorted entries) :
    Sorted others := by
  have order : (entries.map Prod.fst).Pairwise fun k l => compare k l = .lt :=
    List.pairwise_map.mpr sorted
  rw [← keys] at order
  exact List.pairwise_map.mp order

end Entries

namespace Dictionary

variable {α : Type}

theorem ext {d e : Dictionary α} (same : d.entries = e.entries) : d = e := by
  cases d
  cases e
  cases same
  rfl

@[simp]
theorem get?_insert_self (d : Dictionary α) (key : String) (value : α) :
    (d.insert key value).get? key = some value :=
  Entries.get?_insert_self key value d.entries

theorem get?_insert_of_ne (d : Dictionary α) {key other : String} (differ : other ≠ key)
    (value : α) : (d.insert key value).get? other = d.get? other :=
  Entries.get?_insert_of_ne differ value d.entries

@[simp]
theorem insert_insert (d : Dictionary α) (key : String) (value later : α) :
    (d.insert key value).insert key later = d.insert key later :=
  ext (Entries.insert_insert key value later d.entries)

@[simp]
theorem get?_empty (key : String) : (∅ : Dictionary α).get? key = none := rfl

/-- To set a key to the value it has changes nothing. -/
theorem insert_of_get? {d : Dictionary α} {key : String} {value : α}
    (found : d.get? key = some value) : d.insert key value = d :=
  ext (Entries.insert_of_mem d.sorted (Entries.mem_of_get? found))

/-! ## Merging -/

theorem get?_foldl_insert {entries : List (String × α)} (sorted : Entries.Sorted entries)
    (d : Dictionary α) (key : String) :
    (entries.foldl (fun acc entry => acc.insert entry.1 entry.2) d).get? key =
      (Entries.get? key entries).or (d.get? key) := by
  induction entries generalizing d with
  | nil => rfl
  | cons first rest ih =>
      obtain ⟨k, v⟩ := first
      obtain ⟨above, others⟩ := List.pairwise_cons.mp sorted
      rw [List.foldl_cons, ih others, Entries.get?]
      by_cases same : key = k
      · subst same
        have absent : Entries.get? key rest = none := by
          cases found : Entries.get? key rest with
          | none => rfl
          | some w =>
              have less : compare key key = .lt := above (key, w) (Entries.mem_of_get? found)
              have equal : compare key key = .eq := Std.ReflCmp.compare_self
              rw [equal] at less
              cases less
        rw [absent, if_pos rfl, get?_insert_self]
        rfl
      · rw [if_neg same, get?_insert_of_ne d same]

/-- After a merge, the value of a key is that of the other dictionary if it has one. -/
theorem get?_merge (d other : Dictionary α) (key : String) :
    (d.merge other).get? key = (other.get? key).or (d.get? key) :=
  get?_foldl_insert other.sorted d key

/-- To take over entries that are there already changes nothing. -/
theorem merge_of_subset {d other : Dictionary α}
    (subset : ∀ entry ∈ other.entries, d.get? entry.1 = some entry.2) : d.merge other = d := by
  have fold : ∀ entries : List (String × α), (∀ entry ∈ entries, d.get? entry.1 = some entry.2) →
      entries.foldl (fun acc entry => acc.insert entry.1 entry.2) d = d := by
    intro entries
    induction entries with
    | nil => exact fun _ => rfl
    | cons first rest ih =>
        intro inside
        rw [List.foldl_cons, insert_of_get? (inside first List.mem_cons_self)]
        exact ih fun entry member => inside entry (List.mem_cons_of_mem first member)
  exact fold other.entries subset

@[simp]
theorem merge_self (d : Dictionary α) : d.merge d = d :=
  merge_of_subset fun _ member => Entries.get?_of_mem d.sorted member

/-- To take over one entry is to set it. -/
theorem merge_singleton (d : Dictionary α) (key : String) (value : α) :
    d.merge (ofList [(key, value)]) = d.insert key value := rfl

end Dictionary

end SearchOperator
