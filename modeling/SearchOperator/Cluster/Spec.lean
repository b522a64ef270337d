import SearchOperator.Cluster.Status
import SearchOperator.Kubernetes.Metadata
import SearchOperator.Version.Order

/-!
# The declared search cluster

A cluster declares the version it runs and the node sets it is made of. A valid spec names a
version, and at least one node set; node sets have distinct names and at least one node each. How
many nodes are declared in all is taken to be below `2 ^ 31`, so that the sum fits a signed word.
-/

namespace SearchOperator

structure NodeSet where
  name : String
  count : Int
deriving DecidableEq, Repr

structure ClusterSpec where
  version : String
  nodeSets : List NodeSet
deriving DecidableEq, Repr

structure SearchCluster where
  metadata : Metadata
  spec : ClusterSpec
  status : Option ClusterStatus
deriving DecidableEq

namespace ClusterSpec

def nodeCount (spec : ClusterSpec) : Int := (spec.nodeSets.map (·.count)).foldr (· + ·) 0

/-- Check node sets from an index on, given the names before it. -/
def checkNodeSets : Nat → List String → List NodeSet → Except Error Unit
  | _, _, [] => .ok ()
  | index, seen, s :: rest =>
    let field := "spec.nodeSets[" ++ toString index ++ "]"
    if s.name = "" then
      .error (.invalidField (field ++ ".name") "node set name cannot be empty")
    else if seen.contains s.name then
      .error (.invalidField (field ++ ".name") ("duplicate node set name '" ++ s.name ++ "'"))
    else if s.count < 1 then
      .error (.invalidField (field ++ ".count") "node set count must be at least 1")
    else checkNodeSets (index + 1) (s.name :: seen) rest

/-- Check the version, then the node sets. -/
def validate (spec : ClusterSpec) : Except Error Unit :=
  match Version.parse spec.version with
  | .error e => .error (.invalidField "spec.version" e.message)
  | .ok _ =>
    if spec.nodeSets.isEmpty then
      .error (.invalidField "spec.nodeSets" "at least one node set is required")
    else checkNodeSets 0 [] spec.nodeSets

end ClusterSpec

namespace SearchCluster

def name (c : SearchCluster) : String := c.metadata.anyName

def space (c : SearchCluster) : String := c.metadata.spaceOrEmpty

def reference (c : SearchCluster) : ObjectReference :=
  ⟨some apiVersion, some "SearchCluster", c.metadata.name, c.metadata.space, c.metadata.uid⟩

end SearchCluster

end SearchOperator
