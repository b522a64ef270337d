import SearchOperator.Kubernetes.Metadata

/-!
# Pods and StatefulSets

The parts of a cluster's pods and StatefulSets that the operator looks at.
-/

namespace SearchOperator

/-- What a pod reports: its phase, and its conditions by type and status. -/
structure PodStatus where
  phase : Option String
  conditions : List (String × String)
deriving DecidableEq

structure Pod where
  metadata : Metadata
  status : Option PodStatus
deriving DecidableEq

/-- What a StatefulSet declares: how many replicas, and the labels of its pods. -/
structure StatefulSetSpec where
  replicas : Option Int
  templateLabels : Option (Dictionary String)
deriving DecidableEq

structure StatefulSet where
  metadata : Metadata
  spec : Option StatefulSetSpec
deriving DecidableEq

namespace Pod

/-- Whether the pod was asked to shut down. -/
def isTerminating (p : Pod) : Bool := p.metadata.deletion.isSome

/-- Whether the pod is running with its condition `Ready` true, and is not shutting down. -/
def isReady (p : Pod) : Bool :=
  !p.isTerminating && p.status.any fun s =>
    s.phase == some "Running" && s.conditions.contains ("Ready", "True")

def version? (p : Pod) : Option String := p.metadata.label? versionLabel

/-- Whether the pod has been shutting down for longer than a threshold, both in milliseconds. -/
def isStalled (p : Pod) (now threshold : Int) : Bool :=
  p.metadata.deletion.any fun t => threshold < now - t

end Pod

namespace StatefulSet

def templateVersion? (s : StatefulSet) : Option String :=
  (s.spec.bind (·.templateLabels)).bind (·.get? versionLabel)

/-- How many replicas are declared; one unless told otherwise. -/
def replicas (s : StatefulSet) : Int := (s.spec.bind (·.replicas)).getD 1

end StatefulSet

end SearchOperator
