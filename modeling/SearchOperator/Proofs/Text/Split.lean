import SearchOperator.Text.Split

/-!
# Laws of splitting

The pieces of a text give it back, and a text without the separator is one piece. A cut at the first
separator finds it wherever it stands.
-/

namespace SearchOperator.Text

variable {sep : Char}

/-! ## All pieces -/

theorem splitOn_of_not_mem {cs : List Char} (absent : sep ∉ cs) : splitOn sep cs = [cs] := by
  induction cs with
  | nil => rfl
  | cons c rest ih =>
      obtain ⟨other, rest_absent⟩ := List.ne_and_not_mem_of_not_mem_cons absent
      rw [splitOn, if_neg (Ne.symm other), ih rest_absent]

theorem splitOn_append {piece : List Char} (absent : sep ∉ piece) (rest : List Char) :
    splitOn sep (piece ++ sep :: rest) = piece :: splitOn sep rest := by
  induction piece with
  | nil => rw [List.nil_append, splitOn, if_pos rfl]
  | cons c others ih =>
      obtain ⟨other, others_absent⟩ := List.ne_and_not_mem_of_not_mem_cons absent
      rw [List.cons_append, splitOn, if_neg (Ne.symm other), ih others_absent]

/-- The pieces of a text with the separator between them give the text back. -/
theorem intercalate_splitOn (sep : Char) (cs : List Char) :
    [sep].intercalate (splitOn sep cs) = cs := by
  induction cs with
  | nil => rfl
  | cons c rest ih =>
      rw [splitOn]
      split
      · rename_i same
        cases pieces : splitOn sep rest with
        | nil => exact absurd pieces (splitOn_ne_nil sep rest)
        | cons piece others =>
            rw [pieces] at ih
            rw [List.intercalate_cons_cons, ih, same]
            rfl
      · cases pieces : splitOn sep rest with
        | nil => exact absurd pieces (splitOn_ne_nil sep rest)
        | cons piece others =>
            rw [pieces] at ih
            cases others with
            | nil => rw [List.intercalate_singleton] at ih ⊢; rw [ih]
            | cons next more =>
                rw [List.intercalate_cons_cons] at ih ⊢
                rw [List.cons_append, List.cons_append, ih]

/-- A piece holds nothing that the text does not. -/
theorem mem_of_mem_splitOn {c : Char} {cs piece : List Char} (member : piece ∈ splitOn sep cs)
    (inside : c ∈ piece) : c ∈ cs := by
  induction cs generalizing piece with
  | nil =>
      cases List.mem_singleton.mp member
      exact inside
  | cons d rest ih =>
      rw [splitOn] at member
      split at member
      · rcases List.mem_cons.mp member with rfl | later
        · cases inside
        · exact List.mem_cons_of_mem d (ih later inside)
      · cases pieces : splitOn sep rest with
        | nil => exact absurd pieces (splitOn_ne_nil sep rest)
        | cons first others =>
            rw [pieces] at member ih
            rcases List.mem_cons.mp member with rfl | later
            · rcases List.mem_cons.mp inside with rfl | inner
              · exact List.mem_cons_self
              · exact List.mem_cons_of_mem d (ih List.mem_cons_self inner)
            · exact List.mem_cons_of_mem d (ih (List.mem_cons_of_mem first later) inside)

/-! ## The first cut -/

theorem splitOnce_of_not_mem {cs : List Char} (absent : sep ∉ cs) : splitOnce sep cs = none := by
  induction cs with
  | nil => rfl
  | cons c rest ih =>
      obtain ⟨other, rest_absent⟩ := List.ne_and_not_mem_of_not_mem_cons absent
      rw [splitOnce, if_neg (Ne.symm other), ih rest_absent, Option.map_none]

theorem splitOnce_append {before : List Char} (absent : sep ∉ before) (after : List Char) :
    splitOnce sep (before ++ sep :: after) = some (before, after) := by
  induction before with
  | nil => rw [List.nil_append, splitOnce, if_pos rfl]
  | cons c rest ih =>
      obtain ⟨other, rest_absent⟩ := List.ne_and_not_mem_of_not_mem_cons absent
      rw [List.cons_append, splitOnce, if_neg (Ne.symm other), ih rest_absent, Option.map_some]

/-- A cut is missing only if the separator is. -/
theorem not_mem_of_splitOnce {cs : List Char} (uncut : splitOnce sep cs = none) : sep ∉ cs := by
  induction cs with
  | nil => exact List.not_mem_nil
  | cons c rest ih =>
      rw [splitOnce] at uncut
      split at uncut
      · cases uncut
      · rename_i other
        exact List.not_mem_cons_of_ne_of_not_mem (Ne.symm other)
          (ih (Option.map_eq_none_iff.mp uncut))

end SearchOperator.Text
