import SearchOperator.Config.Operation
import SearchOperator.SearchClient

/-!
# Convergence

Operations are made to hold in order: the current document is read, and written only if it is
missing or does not hold what is declared. The first failure ends the run.
-/

namespace SearchOperator

/-- Whether, and why, an operation needs a write. -/
inductive WriteNeed where
  /-- The document holds what is declared. -/
  | none
  /-- There is no document. -/
  | create
  /-- The document lacks something. -/
  | update
deriving DecidableEq, Repr

inductive Outcome where
  | unchanged
  | created
  | updated
deriving DecidableEq, Repr

/-- How many operations came out each way. -/
structure Report where
  unchanged : Nat
  created : Nat
  updated : Nat
deriving DecidableEq, Repr

namespace Report

def empty : Report := ⟨0, 0, 0⟩

/-- How many operations hold. -/
def applied (r : Report) : Nat := r.unchanged + r.created + r.updated

def writes (r : Report) : Nat := r.created + r.updated

def add (r : Report) : Outcome → Report
  | .unchanged => { r with unchanged := r.unchanged + 1 }
  | .created => { r with created := r.created + 1 }
  | .updated => { r with updated := r.updated + 1 }

end Report

namespace Operation

variable {σ : Type}

/-- What a response to reading the document of an operation calls for. -/
def needOf (op : Operation) (r : Response) : Except Error WriteNeed :=
  if r.status = 404 then .ok .create
  else if r.status = 200 then
    if (compareBodies r.body op.desiredBytes).isSatisfied then .ok .none else .ok .update
  else .error (.unacceptableStatus "GET" op.url r.status)

/-- Read the document of an operation and decide whether it has to be written. -/
def need (client : SearchClient σ) (limit : Duration) (op : Operation) : Step σ WriteNeed := do
  let response ← client.send limit .get op.url none
  Step.ofExcept (op.needOf response)

def write (client : SearchClient σ) (limit : Duration) (op : Operation) : Step σ Unit := do
  let response ← client.send limit .put op.url (some op.desiredBytes)
  if !response.isSuccess then throw (.unacceptableStatus "PUT" op.url response.status)

def converge (client : SearchClient σ) (limit : Duration) (op : Operation) : Step σ Outcome := do
  match ← op.need client limit with
  | .none => return .unchanged
  | .create =>
    op.write client limit
    return .created
  | .update =>
    op.write client limit
    return .updated

/-- Make operations hold in order, adding to a report. -/
def convergeFrom (client : SearchClient σ) (limit : Duration) (report : Report) :
    List Operation → Step σ Report
  | [] => return report
  | op :: rest => do
    let outcome ← op.converge client limit
    convergeFrom client limit (report.add outcome) rest

def convergeAll (client : SearchClient σ) (limit : Duration) (ops : List Operation) :
    Step σ Report :=
  convergeFrom client limit .empty ops

end Operation

end SearchOperator
