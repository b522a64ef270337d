import SearchOperator.Kubernetes.Metadata
import SearchOperator.Proofs.Step
import SearchOperator.Url.Resolve

/-!
# Origins of resolved references

A reference that begins with one slash is resolved on the server of its base. A reference that
begins with two slashes of either kind names a server of its own, and of the base it keeps only
the scheme.
-/

namespace SearchOperator.Url

/-- Whether two slashes at the start of a reference, once what does not count is dropped, give it
an authority of its own. -/
def namesServer (reference : String) : Bool :=
  match clean reference with
  | c :: d :: _ => isSlash c && isSlash d
  | _ => false

def server (u : Url) : Option (Option Host × Option Nat) :=
  u.authority.map fun a => (a.host, a.port)

/-- The same scheme, host and port. -/
def SameOrigin (u v : Url) : Prop := u.scheme = v.scheme ∧ u.server = v.server

instance (u v : Url) : Decidable (SameOrigin u v) := inferInstanceAs (Decidable (_ ∧ _))

/-! ## Dropping what does not count -/

theorem dropWhile_reverse_prefix {p : Char → Bool} (front back : List Char)
    (kept : ∀ c ∈ front, p c = false) :
    ∃ rest, ((front ++ back).reverse.dropWhile p).reverse = front ++ rest := by
  rw [List.reverse_append, List.dropWhile_append]
  split
  · refine ⟨[], ?_⟩
    have whole : front.reverse.dropWhile p = front.reverse := by
      cases reversed : front.reverse with
      | nil => rfl
      | cons last before =>
          have member : last ∈ front := by
            rw [← List.mem_reverse, reversed]
            exact List.mem_cons_self
          rw [List.dropWhile_cons_of_neg (by simp [kept last member])]
    rw [whole, List.reverse_reverse, List.append_nil]
  · refine ⟨(back.reverse.dropWhile p).reverse, ?_⟩
    rw [List.reverse_append, List.reverse_reverse]

/-- Characters above the blank at the start of a reference all count. -/
theorem clean_prefix {reference : String} {front back : List Char}
    (split : reference.toList = front ++ back) (nonempty : front ≠ [])
    (visible : front.all (fun c => 0x20 < c.toNat) = true) :
    ∃ rest, clean reference = front ++ rest := by
  have above : ∀ c ∈ front, 0x20 < c.toNat :=
    fun c member => of_decide_eq_true (List.all_eq_true.mp visible c member)
  have kept : ∀ c ∈ front, decide (c.toNat ≤ 0x20) = false := by
    intro c member
    exact decide_eq_false (Nat.not_le.mpr (above c member))
  have start : (front ++ back).dropWhile (fun c => decide (c.toNat ≤ 0x20)) = front ++ back := by
    cases front with
    | nil => exact absurd rfl nonempty
    | cons first others =>
        rw [List.cons_append, List.dropWhile_cons_of_neg (by simp [kept first])]
  obtain ⟨rest, trimmed⟩ := dropWhile_reverse_prefix front back kept
  refine ⟨rest.filter fun c => c != '\t' && c != '\n' && c != '\r', ?_⟩
  rw [clean, split, start, trimmed, List.filter_append]
  congr 1
  refine List.filter_eq_self.mpr fun c member => ?_
  have high := above c member
  simp only [Bool.and_eq_true, bne_iff_ne, ne_eq]
  refine ⟨⟨?_, ?_⟩, ?_⟩ <;> rintro rfl <;> revert high <;> decide

theorem clean_of_slash {reference : String} (absolute : reference.toList.head? = some '/') :
    ∃ rest, clean reference = '/' :: rest := by
  obtain ⟨back, split⟩ := List.head?_eq_some_iff.mp absolute
  have front : reference.toList = ['/'] ++ back := split
  exact clean_prefix front (by decide) (by decide)

/-! ## References that begin with a slash -/

/-- A base against which paths are resolved: a web address with an authority. -/
def IsServer (base : Url) : Prop := base.kind = .web ∧ base.authority.isSome = true

theorem join_of_slash {base : Url} (web : base.IsServer) {reference : String} {rest : List Char}
    (cleaned : clean reference = '/' :: rest) :
    base.join reference = relative base ('/' :: rest) := by
  have noScheme : scheme? ('/' :: rest) = none := by
    rw [scheme?, List.takeWhile_cons_of_neg (by decide)]
    rfl
  have notOpaque : base.isOpaque = false := by
    simp [isOpaque, Option.isNone_eq_false_iff.mpr web.2]
  simp [join, resolve, cleaned, noScheme, notOpaque, web.1]

theorem relative_of_path {base : Url} {rest : List Char}
    (single : ∀ c ∈ rest.head?, isSlash c = false) :
    relative base ('/' :: rest) = .ok (withPath base.scheme base.authority ['/'] rest) := by
  cases rest with
  | nil => rfl
  | cons c after =>
      have other : isSlash c = false := single c rfl
      have notSlash : ¬ c = '/' := by
        rintro rfl
        exact absurd other (by decide)
      simp [relative, other, notSlash, show isSlash '/' = true from rfl]

/-- Of a base against which a reference with an authority is resolved only the scheme counts. -/
theorem relative_of_server (base : Url) {c : Char} (rest : List Char) (double : isSlash c = true) :
    relative base ('/' :: c :: rest) = afterSlashes base.scheme
      (if c = '/' then rest else ('/' :: c :: rest).dropWhile isSlash) := by
  by_cases slash : c = '/' <;> simp [relative, double, slash, show isSlash '/' = true from rfl]

/-- A path stays on the server of its base. -/
theorem sameOrigin_withPath (base : Url) (path text : List Char) :
    SameOrigin (withPath base.scheme base.authority path text) base := ⟨rfl, rfl⟩

/-! ## The address of a cluster -/

/-- What follows the slashes of a web scheme is an address of that scheme with an authority. -/
theorem isServer_of_afterSlashes {scheme : String} {cs : List Char} {u : Url}
    (web : SchemeKind.ofScheme scheme = .web) (read : afterSlashes scheme cs = .ok u) :
    u.scheme = scheme ∧ u.IsServer := by
  have special : (SchemeKind.ofScheme scheme).isSpecial = true := by rw [web]; rfl
  simp only [afterSlashes, special, if_true] at read
  obtain ⟨⟨user, password, afterUser⟩, -, read⟩ := bind_eq_ok.mp read
  obtain ⟨⟨host, number, afterHost⟩, -, read⟩ := bind_eq_ok.mp read
  split at read
  · cases read
  · cases read
    exact ⟨rfl, web, rfl⟩

/-- The address of a cluster, whatever its name and namespace, is a server of the secure web. -/
theorem isServer_of_clusterUrl {name space : String} {base : Url}
    (parsed : Url.parse (clusterUrl name space) = .ok base) :
    base.scheme = "https" ∧ base.IsServer := by
  have split : (clusterUrl name space).toList =
      "https://".toList ++ (name ++ "-http." ++ space ++ ".svc:9200").toList := by
    simp [clusterUrl]
  obtain ⟨rest, cleaned⟩ := clean_prefix split (by decide) (by decide)
  have scheme : scheme? ("https://".toList ++ rest) = some ("https", '/' :: '/' :: rest) := by
    rfl
  rw [parse, resolve, cleaned, scheme] at parsed
  exact isServer_of_afterSlashes (by decide) parsed

/-! ## Joining -/

/-- A reference that names no server stays on the server of its base. -/
theorem join_of_path {base : Url} (web : base.IsServer) {reference : String}
    (absolute : reference.toList.head? = some '/') (path : ¬ namesServer reference) :
    ∃ u, base.join reference = .ok u ∧ u.SameOrigin base := by
  obtain ⟨rest, cleaned⟩ := clean_of_slash absolute
  have single : ∀ c ∈ rest.head?, isSlash c = false := by
    intro c first
    cases rest with
    | nil => cases first
    | cons d after =>
        cases first
        simpa [namesServer, cleaned, show isSlash '/' = true from rfl] using path
  refine ⟨withPath base.scheme base.authority ['/'] rest, ?_, sameOrigin_withPath base _ _⟩
  rw [join_of_slash web cleaned, relative_of_path single]

/-- A reference that names a server is resolved from the scheme of the base alone. -/
theorem join_of_server {reference : String} (absolute : reference.toList.head? = some '/')
    (server : namesServer reference = true) :
    ∃ text, ∀ base : Url, base.IsServer → base.join reference = afterSlashes base.scheme text := by
  obtain ⟨rest, cleaned⟩ := clean_of_slash absolute
  cases rest with
  | nil => simp [namesServer, cleaned] at server
  | cons c after =>
      have double : isSlash c = true := by
        simpa [namesServer, cleaned, show isSlash '/' = true from rfl] using server
      refine ⟨if c = '/' then after else ('/' :: c :: after).dropWhile isSlash, fun base web => ?_⟩
      rw [join_of_slash web cleaned, relative_of_server base after double]

end SearchOperator.Url
