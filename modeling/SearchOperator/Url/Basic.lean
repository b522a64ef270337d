import SearchOperator.Url.Host
import SearchOperator.Url.Path

/-!
# Addresses

An address has a scheme, an authority with user, host and port, a path, and optionally a query and
a fragment. An address without an authority whose path does not begin with a slash is opaque:
nothing but a fragment can be resolved against it.
-/

namespace SearchOperator

/-- Who is addressed: the user and the password in encoded form, the host and the port, unless the
scheme implies it. -/
structure Url.Authority where
  user : List Char
  password : Option (List Char)
  host : Option Url.Host
  port : Option Nat
deriving DecidableEq, Repr

/-- An address in normal form. -/
structure Url where
  scheme : String
  authority : Option Url.Authority
  path : List Char
  query : Option (List Char)
  fragment : Option (List Char)
deriving DecidableEq, Repr

namespace Url

def Authority.text (a : Authority) : String :=
  let password := match a.password with
    | some password => ":" ++ String.ofList password
    | none => ""
  let user := if a.user.isEmpty && a.password.isNone then "" else
    String.ofList a.user ++ password ++ "@"
  let host := match a.host with
    | some host => host.text
    | none => ""
  let port := match a.port with
    | some port => ":" ++ toString port
    | none => ""
  user ++ host ++ port

/-- The address as text. A path that begins with two slashes is kept apart from an authority. -/
def text (u : Url) : String :=
  let authority := match u.authority with
    | some a => "//" ++ a.text
    | none => if u.path.take 2 == ['/', '/'] then "/." else ""
  let query := match u.query with
    | some query => "?" ++ String.ofList query
    | none => ""
  let fragment := match u.fragment with
    | some fragment => "#" ++ String.ofList fragment
    | none => ""
  u.scheme ++ ":" ++ authority ++ String.ofList u.path ++ query ++ fragment

/-- Whether nothing but a fragment can be resolved against the address. -/
def isOpaque (u : Url) : Bool :=
  u.authority.isNone && u.path.head? != some '/'

def kind (u : Url) : SchemeKind := SchemeKind.ofScheme u.scheme

/-- Whether requests can be sent to the address. -/
def isWeb (u : Url) : Bool := u.scheme == "http" || u.scheme == "https"

end Url

end SearchOperator
