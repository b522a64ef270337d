/-!
# Similar texts

Two texts are similar as far as they have the same characters at about the same places. A character
matches an equal one that is no further away than about half the longer text, each at most once.
The similarity of texts of m and n characters with k matches, of which 2t or 2t + 1 are out of
order, is the mean of k/m, k/n and (k - t)/k.
-/

namespace SearchOperator.Text

/-- Take the first equal character from places `low` to `high - 1` that has no match yet. -/
def takeMatch (c : Char) (low high : Nat) : Nat → List (Char × Bool) → Option (List (Char × Bool))
  | _, [] => none
  | place, (d, used) :: rest =>
    if high ≤ place then none
    else if low ≤ place && c == d && !used then some ((d, true) :: rest)
    else (takeMatch c low high (place + 1) rest).map ((d, used) :: ·)

/-- Match characters from a place on; the matched ones, and the other text with its matches. -/
def matchAll (range : Nat) : Nat → List Char → List (Char × Bool) → List Char × List (Char × Bool)
  | _, [], other => ([], other)
  | place, c :: rest, other =>
    match takeMatch c (place - range) (place + range + 1) 0 other with
    | some other =>
      let (matched, other) := matchAll range (place + 1) rest other
      (c :: matched, other)
    | none => matchAll range (place + 1) rest other

/-- The similarity of two texts, from none to one. -/
def similarity (s t : String) : Float :=
  let m := s.length
  let n := t.length
  if m = 0 && n = 0 then 1
  else
    let (matched, other) := matchAll (max m n / 2 - 1) 0 s.toList (t.toList.map fun c => (c, false))
    let counterparts := (other.filter (·.2)).map (·.1)
    let k := matched.length
    let moved := ((matched.zip counterparts).filter fun (a, b) => a != b).length / 2
    if k = 0 then 0
    else
      let share (i j : Nat) : Float := Float.ofNat i / Float.ofNat j
      (share k m + share k n + share (k - moved) k) / 3

/-- From which similarity on, exclusively, a text is proposed for another. -/
def proposalLimit : Float := 0.7

/-- Put a proposal after all that are no more similar. -/
def insertProposal (p : Float × String) : List (Float × String) → List (Float × String)
  | [] => [p]
  | q :: rest => if p.1 < q.1 then p :: q :: rest else q :: insertProposal p rest

/-- The texts similar enough to be meant by another, the most similar last. -/
def proposals (s : String) (candidates : List String) : List String :=
  let rated := candidates.map fun c => (similarity s c, c)
  let similar := rated.filter fun (r, _) => proposalLimit < r
  (similar.foldl (fun found p => insertProposal p found) []).map (·.2)

end SearchOperator.Text
