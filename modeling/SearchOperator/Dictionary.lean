/-!
# Dictionaries

A dictionary maps texts to values. Its entries are kept in the order of their keys, one entry a
key, so two dictionaries with the same look-ups are equal. The operations on plain entry lists
serve types that cannot carry the order as a proof.
-/

namespace SearchOperator

namespace Entries

variable {α : Type}

/-- Set the value of a key in a list ordered by key, replacing the one it had. -/
def insert (key : String) (value : α) : List (String × α) → List (String × α)
  | [] => [(key, value)]
  | (k, v) :: rest =>
    match compare key k with
    | .lt => (key, value) :: (k, v) :: rest
    | .eq => (k, value) :: rest
    | .gt => (k, v) :: insert key value rest

def get? (key : String) : List (String × α) → Option α
  | [] => none
  | (k, v) :: rest => if key = k then some v else get? key rest

/-- Entries in the order of their keys, without repeated keys. -/
def Sorted (entries : List (String × α)) : Prop :=
  entries.Pairwise fun a b => compare a.1 b.1 = .lt

/-- Put the entries of a list into order; of several with one key the last counts. -/
def ofList (entries : List (String × α)) : List (String × α) :=
  entries.foldl (fun acc (k, v) => insert k v acc) []

theorem mem_keys_insert {key k : String} {value : α} {entries : List (String × α)}
    (h : k ∈ (insert key value entries).map Prod.fst) :
    k = key ∨ k ∈ entries.map Prod.fst := by
  induction entries with
  | nil => simpa [insert] using h
  | cons e rest ih =>
    obtain ⟨k', v'⟩ := e
    simp only [insert] at h
    split at h <;> simp only [List.map_cons, List.mem_cons] at h ⊢
    · exact h
    · exact .inr h
    · rcases h with h | h
      · exact .inr (.inl h)
      · rcases ih h with h | h
        · exact .inl h
        · exact .inr (.inr h)

theorem Sorted.insert {key : String} {value : α} {entries : List (String × α)}
    (h : Sorted entries) : Sorted (insert key value entries) := by
  induction entries with
  | nil => simp [Entries.insert, Sorted]
  | cons e rest ih =>
    obtain ⟨k, v⟩ := e
    simp only [Sorted, List.pairwise_cons] at h
    obtain ⟨hall, hrest⟩ := h
    simp only [Entries.insert]
    split
    · next hlt =>
      refine List.pairwise_cons.2 ⟨?_, List.pairwise_cons.2 ⟨hall, hrest⟩⟩
      intro b hb
      rcases List.mem_cons.1 hb with rfl | hb
      · exact hlt
      · exact Std.TransCmp.lt_trans hlt (hall b hb)
    · exact List.pairwise_cons.2 ⟨hall, hrest⟩
    · next hgt =>
      refine List.pairwise_cons.2 ⟨?_, ih hrest⟩
      intro b hb
      rcases mem_keys_insert (List.mem_map_of_mem hb) with hk | hk
      · simp only [hk]
        exact Std.OrientedCmp.gt_iff_lt.1 hgt
      · obtain ⟨c, hc, hck⟩ := List.mem_map.1 hk
        rw [← hck]
        exact hall c hc

theorem sorted_ofList (entries : List (String × α)) : Sorted (ofList entries) := by
  have aux : ∀ (l acc : List (String × α)), Sorted acc →
      Sorted (l.foldl (fun acc (k, v) => insert k v acc) acc) := by
    intro l
    induction l with
    | nil => intro acc h; exact h
    | cons e rest ih => intro acc h; exact ih _ h.insert
  exact aux entries [] List.Pairwise.nil

end Entries

structure Dictionary (α : Type) where
  entries : List (String × α)
  sorted : Entries.Sorted entries

namespace Dictionary

variable {α : Type}

instance [DecidableEq α] : DecidableEq (Dictionary α) := fun a b =>
  decidable_of_iff (a.entries = b.entries) ⟨fun h => by cases a; cases b; simp_all, fun h => h ▸ rfl⟩

/-- The dictionary without entries. -/
protected def empty : Dictionary α := ⟨[], List.Pairwise.nil⟩

instance : EmptyCollection (Dictionary α) := ⟨Dictionary.empty⟩

instance : Inhabited (Dictionary α) := ⟨∅⟩

/-- A dictionary from entries in any order; of several with one key the last counts. -/
def ofList (entries : List (String × α)) : Dictionary α :=
  ⟨Entries.ofList entries, Entries.sorted_ofList entries⟩

def toList (d : Dictionary α) : List (String × α) := d.entries

def get? (d : Dictionary α) (key : String) : Option α := Entries.get? key d.entries

def contains (d : Dictionary α) (key : String) : Bool := (d.get? key).isSome

def insert (d : Dictionary α) (key : String) (value : α) : Dictionary α :=
  ⟨Entries.insert key value d.entries, d.sorted.insert⟩

/-- Take over every entry of another dictionary, replacing entries of the same key. -/
def merge (d other : Dictionary α) : Dictionary α :=
  other.entries.foldl (fun acc (k, v) => acc.insert k v) d

def size (d : Dictionary α) : Nat := d.entries.length

def isEmpty (d : Dictionary α) : Bool := d.entries.isEmpty

end Dictionary

end SearchOperator
