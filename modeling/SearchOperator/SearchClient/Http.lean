import SearchOperator.Certificate.Anchor
import SearchOperator.SearchClient
import SearchOperator.Text.Quoted
import SearchOperator.Text.Utf8
import SearchOperator.Url.Resolve

/-!
# Search clients over HTTP

A client sends requests to the address of a cluster, with credentials if it has some, over a
network. The path of a request is resolved against the address. A request fails before anything is
sent if its path does not resolve, or resolves to an address that no request can go to.
-/

namespace SearchOperator

structure Credentials where
  user : String
  password : String
deriving DecidableEq

/-- Credentials as they may be shown, without the password. -/
def Credentials.text (c : Credentials) : String :=
  "Credentials \x7b username: " ++ Text.quoted c.user ++ ", password: \"<redacted>\" \x7d"

/-- A way to send requests to addresses. An exchange that cannot be had gives a reason. -/
structure Network (σ : Type) where
  exchange : Option Credentials → Method → Url → Option Bytes → StateM σ (Except String Answer)

structure HttpClient where
  base : Url
  credentials : Option Credentials
deriving DecidableEq

namespace Url

def encodesText (cs : List Char) : Bool :=
  (Text.Utf8.fault? 0 0 (percentDecode (cs.flatMap String.utf8EncodeChar))).isNone

/-- Whether an authority names a user, or gives a password, that can be read. -/
def Authority.hasReadableUser (a : Authority) : Bool :=
  encodesText a.user && (!a.user.isEmpty || a.password.any encodesText)

/-- An address without its user and password, which are not sent as a part of it. -/
def withoutUser (u : Url) : Url :=
  match u.authority with
  | some a =>
    if a.hasReadableUser then { u with authority := some { a with user := [], password := none } }
    else u
  | none => u

def lengthLimit : Nat := 65534

/-- Whether a request can go to the address: it is a web address, not too long, and its host has no
quotes or braces. -/
def takesRequests (u : Url) : Bool :=
  let host := ((u.authority.bind (·.host)).map Host.text).getD ""
  u.isWeb && u.text.length ≤ lengthLimit &&
    !host.toList.any fun c => "\"\x60\x7b\x7d".toList.contains c

end Url

namespace HttpClient

/-- A client for a cluster at an address, trusting the certificates in a text if one is given. -/
def create (base : String) (credentials : Option Credentials) (authorities : Option Bytes) :
    Except Error HttpClient :=
  match Url.parse base with
  | .error fault => .error (.transport base ("invalid base url: " ++ fault.text))
  | .ok url =>
    if authorities.all Certificate.areAnchors then .ok ⟨url, credentials⟩
    else .error (.transport url.text "failed to build HTTP client: builder error")

def urlFor (client : HttpClient) (path : String) : Except Error Url :=
  match client.base.join path with
  | .error fault => .error (.transport path ("invalid path: " ++ fault.text))
  | .ok url => .ok url

def failure (method : Method) (path reason : String) : Error :=
  .transport path (method.text ++ " failed: " ++ reason)

def target (client : HttpClient) (method : Method) (path : String) : Except Error Url := do
  let url := (← client.urlFor path).withoutUser
  if url.takesRequests then return url
  else throw (failure method path ("builder error for url (" ++ url.text ++ ")"))

def overNetwork {σ : Type} (network : Network σ) (client : HttpClient) : SearchClient σ where
  request method path body := do
    match client.target method path with
    | .error e => return .after ⟨0⟩ (.error e)
    | .ok url =>
      match ← network.exchange client.credentials method url body with
      | .ok answer => return answer
      | .error reason => return .after ⟨0⟩ (.error (failure method path reason))

end HttpClient

end SearchOperator
