import SearchOperator.Url.Basic

/-!
# Resolving references

A reference is read on its own or against a base. Blanks and controls at its ends, and tabs and
line breaks everywhere, do not count. A reference with a scheme stands for itself, unless it names
the base's own web scheme without an authority; two slashes at the start give a new authority; one
slash replaces the path; all else is relative to the last segment of the base's path.
-/

namespace SearchOperator.Url

/-- Drop what does not count in a reference. -/
def clean (s : String) : List Char :=
  let atEnd (c : Char) : Bool := c.toNat ≤ 0x20
  let trimmed := ((s.toList.dropWhile atEnd).reverse.dropWhile atEnd).reverse
  trimmed.filter fun c => c != '\t' && c != '\n' && c != '\r'

def isSchemeChar (c : Char) : Bool :=
  isLetter c || Text.isDigit c || c == '+' || c == '-' || c == '.'

/-- Cut the scheme off a reference that has one, in lower case. -/
def scheme? (cs : List Char) : Option (String × List Char) :=
  let name := cs.takeWhile isSchemeChar
  match name.head?, cs.drop name.length with
  | some first, ':' :: rest =>
    if isLetter first then some (String.ofList (name.map Char.toLower), rest) else none
  | _, _ => none

/-- Whether a character is a slash to references of any kind. -/
def isSlash (c : Char) : Bool := c == '/' || c == '\\'

def endsPath (c : Char) : Bool := c == '?' || c == '#'

def queryAndFragment (kind : SchemeKind) (cs : List Char) :
    Option (List Char) × Option (List Char) :=
  match cs with
  | '?' :: rest =>
    let query := rest.takeWhile (· != '#')
    let encodes := if kind.isSpecial then webQueryEncodes else queryEncodes
    (some (percentEncode encodes query),
      ((rest.drop query.length).tail?).map (percentEncode fragmentEncodes))
  | '#' :: rest => (none, some (percentEncode fragmentEncodes rest))
  | _ => (none, none)

/-- An address whose path, query and fragment a text gives, the path being appended to another. -/
def withPath (scheme : String) (authority : Option Authority) (path text : List Char) : Url :=
  let kind := SchemeKind.ofScheme scheme
  let here := text.takeWhile (!endsPath ·)
  let (query, fragment) := queryAndFragment kind (text.drop here.length)
  ⟨scheme, authority, Path.append kind path here, query, fragment⟩

/-! ## Authorities -/

/-- Cut off user and password, which end at the last at sign before the path. -/
def userInfo (kind : SchemeKind) (cs : List Char) :
    Except Fault (List Char × Option (List Char) × List Char) :=
  let before := cs.takeWhile fun c => !(c == '/' || endsPath c || (c == '\\' && kind.isSpecial))
  let after := cs.drop before.length
  let host := (before.reverse.takeWhile (· != '@')).reverse
  if host.length = before.length then .ok ([], none, cs)
  else
    let info := before.take (before.length - host.length - 1)
    if info.isEmpty then
      if host.isEmpty && !after.isEmpty then .error .emptyHost else .ok ([], none, host ++ after)
    else
      let user := info.takeWhile (· != ':')
      let password := match info.drop user.length with
        | _ :: c :: rest => some (percentEncode userEncodes (c :: rest))
        | _ => none
      .ok (percentEncode userEncodes user, password, host ++ after)

/-- The characters of a host, up to the port or the path; brackets may hold colons. -/
def hostChars (kind : SchemeKind) : Bool → List Char → List Char
  | _, [] => []
  | inside, c :: cs =>
    if (c == ':' && !inside) || c == '/' || endsPath c || (c == '\\' && kind.isSpecial) then []
    else c :: hostChars kind (if c == '[' then true else if c == ']' then false else inside) cs

/-- Read a port, which a path or the end must follow. -/
def port (scheme : String) (cs : List Char) : Except Fault (Option Nat × List Char) :=
  let digits := cs.takeWhile Text.isDigit
  let rest := cs.drop digits.length
  let n := digits.foldl (fun n c => 10 * n + (c.toNat - 48)) 0
  if 65535 < n || !(rest.head?.all fun c => isSlash c || endsPath c) then .error .invalidPort
  else if digits.isEmpty || some n == defaultPort? scheme then .ok (none, rest)
  else .ok (some n, rest)

def hostAndPort (scheme : String) (cs : List Char) :
    Except Fault (Option Host × Option Nat × List Char) := do
  let kind := SchemeKind.ofScheme scheme
  let name := hostChars kind false cs
  let rest := cs.drop name.length
  if kind = .web && name.isEmpty then throw .emptyHost
  let host ← if kind.isSpecial then Host.ofText name else Host.ofOpaqueText name
  let isEmpty := host == .domain []
  if isEmpty && rest.head? == some ':' then throw .emptyHost
  let (number, rest) ← match rest with
    | ':' :: rest => port scheme rest
    | rest => pure (none, rest)
  return (if isEmpty then none else some host, number, rest)

def afterSlashes (scheme : String) (cs : List Char) : Except Fault Url := do
  let kind := SchemeKind.ofScheme scheme
  let (user, password, rest) ← userInfo kind cs
  let (host, number, rest) ← hostAndPort scheme rest
  if host.isNone && !(user.isEmpty && password.isNone) then throw .emptyHost
  let authority : Authority := ⟨user, password, host, number⟩
  if kind.isSpecial then
    let text := match rest with
      | c :: after => if isSlash c then after else rest
      | [] => []
    return withPath scheme (some authority) ['/'] text
  else
    match rest with
    | [] => return withPath scheme (some authority) [] []
    | c :: _ =>
      if endsPath c then
        let (query, fragment) := queryAndFragment kind rest
        return ⟨scheme, some authority, [], query, fragment⟩
      else return withPath scheme (some authority) (if c = '/' then [] else ['/']) rest

/-! ## Files -/

def fileAuthority (host : Option Host) : Authority := ⟨[], none, host, none⟩

/-- Read the host of a file; a drive letter is none, and this machine is none. -/
def fileHost (cs : List Char) : Except Fault (Option Host × List Char) := do
  let name := cs.takeWhile fun c => !(isSlash c || endsPath c)
  let rest := cs.drop name.length
  if isLooseDriveLetter name then return (none, cs)
  if name.isEmpty then return (none, rest)
  let host ← Host.ofText name
  return (if host == .domain "localhost".toList then none else some host, rest)

/-- A file whose path begins with a drive letter has no host. -/
def withoutDriveHost (u : Url) : Url :=
  match u.path with
  | '/' :: rest =>
    if startsWithDriveLetter rest then { u with authority := some (fileAuthority none) } else u
  | _ => u

/-- Read a file reference after its scheme, against the base if that is a file. -/
def file (base : Option Url) (cs : List Char) : Except Fault Url := do
  match cs with
  | c :: rest =>
    if isSlash c then
      match rest with
      | d :: after =>
        if isSlash d then
          let (host, rest) ← fileHost after
          let text := match rest with
            | e :: after => if isSlash e then after else rest
            | [] => []
          return withoutDriveHost (withPath "file" (some (fileAuthority host)) ['/'] text)
      | [] => pure ()
      let (host, start) :=
        if startsWithDriveLetter rest then (none, [])
        else
          match base with
          | none => (none, [])
          | some b =>
            let first := (b.path.drop 1).takeWhile (· != '/')
            if isDriveLetter first then (none, '/' :: first)
            else (b.authority.bind (·.host), [])
      return withPath "file" (some (fileAuthority host)) start cs
    match base with
    | some b =>
      if c = '?' then
        let (query, fragment) := queryAndFragment .file cs
        return { b with query, fragment }
      else if c = '#' then return { b with fragment := (queryAndFragment .file cs).2 }
      else if startsWithDriveLetter cs then
        return withPath "file" (some (fileAuthority none)) ['/'] cs
      else return withPath "file" b.authority (Path.shorten .file b.path) cs
    | none => return withPath "file" (some (fileAuthority none)) ['/'] cs
  | [] =>
    match base with
    | some b => return { b with fragment := none }
    | none => return withPath "file" (some (fileAuthority none)) ['/'] []

/-! ## References -/

/-- Read a reference without a scheme of its own against a base that has a path. -/
def relative (base : Url) (cs : List Char) : Except Fault Url :=
  match cs with
  | [] => .ok { base with fragment := none }
  | c :: rest =>
    if c = '?' then
      let (query, fragment) := queryAndFragment base.kind cs
      .ok { base with query, fragment }
    else if c = '#' then .ok { base with fragment := (queryAndFragment base.kind cs).2 }
    else if isSlash c then
      match rest with
      | d :: after =>
        if c = '/' && d = '/' then afterSlashes base.scheme after
        else if isSlash d then afterSlashes base.scheme (cs.dropWhile isSlash)
        else .ok (withPath base.scheme base.authority ['/'] rest)
      | [] => .ok (withPath base.scheme base.authority ['/'] rest)
    else
      let popped := Path.pop base.kind base.path
      let start := if popped.isEmpty then ['/'] else popped
      .ok (withPath base.scheme base.authority start cs)

/-- Read what follows the scheme of a reference of no web and no file scheme. -/
def afterOtherScheme (scheme : String) (cs : List Char) : Except Fault Url :=
  match cs with
  | '/' :: '/' :: rest => afterSlashes scheme rest
  | '/' :: rest => .ok (withPath scheme none ['/'] rest)
  | cs =>
    let path := cs.takeWhile (!endsPath ·)
    let (query, fragment) := queryAndFragment .other (cs.drop path.length)
    .ok ⟨scheme, none, percentEncode isControl path, query, fragment⟩

/-- Read a reference, on its own or against a base. -/
def resolve (base : Option Url) (reference : String) : Except Fault Url :=
  let cs := clean reference
  match scheme? cs with
  | some (scheme, rest) =>
    match SchemeKind.ofScheme scheme with
    | .file => file (base.filter (·.scheme == "file")) rest
    | .web =>
      let slashes := (rest.takeWhile isSlash).length
      match base with
      | some b =>
        if slashes < 2 && b.scheme == scheme then relative b rest
        else afterSlashes scheme (rest.drop slashes)
      | none => afterSlashes scheme (rest.drop slashes)
    | .other => afterOtherScheme scheme rest
  | none =>
    match base with
    | none => .error .relativeWithoutBase
    | some b =>
      if cs.head? == some '#' then .ok { b with fragment := (queryAndFragment b.kind cs).2 }
      else if b.isOpaque then .error .relativeToOpaqueBase
      else if b.kind = .file then file (some b) cs
      else relative b cs

def parse (s : String) : Except Fault Url := resolve none s

def join (base : Url) (reference : String) : Except Fault Url := resolve (some base) reference

end SearchOperator.Url
