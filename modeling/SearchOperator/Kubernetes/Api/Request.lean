import SearchOperator.Json.Value
import SearchOperator.Kubernetes.Metadata
import SearchOperator.SearchClient
import SearchOperator.Url.Percent

/-!
# Requests to the Kubernetes API

The objects of a kind in a namespace are a collection with a path. A request reads an object by
name, lists the objects with a label, patches an object with a merge patch, or creates one. Names
and namespaces go into the address as they are, so not every name makes one: a request is formed
only if its address may be sent.
-/

namespace SearchOperator

/-- A request to the API: where it goes, what it asks for, and a document with its media type. -/
structure ApiRequest where
  method : Method
  path : String
  query : String
  content : Option (String × Json)

/-- The objects of one kind: where the API keeps its group, and what they are called there. -/
structure Collection where
  root : String
  plural : String
deriving DecidableEq, Repr

namespace Collection

def ownRoot : String := "/apis/" ++ apiVersion

def clusters : Collection := ⟨ownRoot, "searchclusters"⟩

def configs : Collection := ⟨ownRoot, "searchconfigs"⟩

def pods : Collection := ⟨"/api/v1", "pods"⟩

def secrets : Collection := ⟨"/api/v1", "secrets"⟩

def statefulSets : Collection := ⟨"/apis/apps/v1", "statefulsets"⟩

def events : Collection := ⟨"/apis/events.k8s.io/v1", "events"⟩

def path (c : Collection) (space : String) : String :=
  c.root ++ "/namespaces/" ++ space ++ "/" ++ c.plural

end Collection

namespace ApiRequest

/-- Whether a character may stand in the path of a request. -/
def isPathChar (c : Char) : Bool := 0x20 < c.toNat && !"<>\x60".toList.contains c

/-- Whether a character may stand in the query of a request. -/
def isQueryChar (c : Char) : Bool := 0x20 < c.toNat && !"\"<>".toList.contains c

/-- How many bytes an address may have. -/
def lengthLimit : Nat := 65534

/-- The path and the query of an address, if it may be sent. A fragment is not sent. -/
def split? (address : String) : Option (String × String) :=
  let sent := address.toList.takeWhile (· != '#')
  let path := sent.takeWhile (· != '?')
  let query := sent.drop (path.length + 1)
  if address.utf8ByteSize ≤ lengthLimit && path.all isPathChar && query.all isQueryChar then
    some (String.ofList path, String.ofList query)
  else none

def to? (method : Method) (address : String) (content : Option (String × Json)) :
    Option ApiRequest :=
  (split? address).map fun (path, query) => ⟨method, path, query, content⟩

/-- Whether a byte stands for itself in a form. -/
def isPlainInForm (b : UInt8) : Bool :=
  let n := b.toNat
  (48 ≤ n && n ≤ 57) || (65 ≤ n && n ≤ 90) || (97 ≤ n && n ≤ 122) || n == 42 || n == 45 ||
    n == 46 || n == 95

/-- A value in a query, encoded as in a form: a plus sign is a space. -/
def formText (s : String) : String :=
  String.ofList <| (s.toList.flatMap String.utf8EncodeChar).flatMap fun b =>
    if isPlainInForm b then [Char.ofNat b.toNat]
    else if b = 0x20 then ['+'] else Url.percentByte b

def documentType : String := "application/json"

def patchType : String := "application/merge-patch+json"

def get? (c : Collection) (space name : String) : Option ApiRequest :=
  if name = "" then none else to? .get (c.path space ++ "/" ++ name) none

/-- List the objects that a label selects. -/
def list? (c : Collection) (space selector : String) : Option ApiRequest :=
  to? .get (c.path space ++ "?&labelSelector=" ++ formText selector) none

/-- Patch an object, or the part of it at a path below it, in the operator's name. -/
def patch? (c : Collection) (space name part : String) (document : Json) : Option ApiRequest :=
  if name = "" then none
  else
    to? .patch (c.path space ++ "/" ++ name ++ part ++ "?&fieldManager=" ++ fieldManager)
      (some (patchType, document))

/-- Patch an object in nobody's name. -/
def merge? (c : Collection) (space name : String) (document : Json) : Option ApiRequest :=
  if name = "" then none
  else to? .patch (c.path space ++ "/" ++ name ++ "?") (some (patchType, document))

def create? (c : Collection) (space : String) (document : Json) : Option ApiRequest :=
  to? .post (c.path space ++ "?") (some (documentType, document))

/-- The merge patch that sets a status. -/
def statusPatch (status : Json) : Json := .ofMembers [("status", status)]

/-- The merge patch that sets annotations. -/
def annotationsPatch (annotations : Dictionary String) : Json :=
  .ofMembers [("metadata", .ofMembers [("annotations", .ofTexts annotations)])]

end ApiRequest

end SearchOperator
