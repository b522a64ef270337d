import SearchOperator.Kubernetes.Api.Server
import SearchOperator.SearchClient.Http

/-!
# Clients from secrets

A cluster publishes the operator's credentials in one secret and its certificate authority in
another. A client uses what there is of them: credentials if both user name and password are there,
and an authority if there is one.
-/

namespace SearchOperator.ApiServer

variable {σ : Type}

def userKey : String := "username"

def passwordKey : String := "password"

def authorityKey : String := "ca.crt"

def secretText (secret : String) (value : Bytes) : Except Error String :=
  match Text.Utf8.decode value with
  | .ok s => .ok s
  | .error fault =>
    .error (.serialization ("secret " ++ secret ++ " is not UTF-8: " ++ fault.text)
      (some "Secret"))

/-- The operator's credentials for a cluster. -/
def credentials? (server : ApiServer σ) (space name : String) : Step σ (Option Credentials) := do
  let secret := userSecretName name
  let user ← server.secretValue? secret space userKey
  let password ← server.secretValue? secret space passwordKey
  match user, password with
  | some user, some password =>
    let user ← Step.ofExcept (secretText secret user)
    let password ← Step.ofExcept (secretText secret password)
    return some ⟨user, password⟩
  | _, _ => return none

def httpClient (server : ApiServer σ) (space name : String) : Step σ HttpClient := do
  let credentials ← server.credentials? space name
  let authority ← server.secretValue? (caSecretName name) space authorityKey
  Step.ofExcept (HttpClient.create (clusterUrl name space) credentials authority)

def clients (server : ApiServer σ) (network : Network σ) : ClientFactory σ where
  clientFor space name := do return (← server.httpClient space name).overNetwork network

end SearchOperator.ApiServer
