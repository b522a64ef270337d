import SearchOperator.Version.Order

/-!
# Controller versions

A resource records the version of the controller that last took it. A controller takes a resource
only if it is of the recorded version or a valid upgrade of it, so an older controller never
fights a newer one.
-/

namespace SearchOperator

/-- What a controller may do with a resource. -/
inductive Compatibility where
  /-- The recorded version is the controller's. -/
  | compatible
  /-- The controller may take the resource and must record its version. -/
  | stamp
  /-- The resource belongs to another controller. -/
  | incompatible (recorded : String)
deriving DecidableEq, Repr

namespace Compatibility

def mayReconcile : Compatibility → Bool
  | .incompatible _ => false
  | _ => true

/-- Judge the recorded version, blank or absent on a resource that nobody took yet, against the
controller's own. The controller's version is read first. -/
def check (recorded : Option String) (current : String) : Except Error Compatibility := do
  let currentVersion ← Version.parse current
  let recordedText := Text.trim (recorded.getD "")
  if recordedText = "" then return .stamp
  let recordedVersion ← Version.parse recordedText
  if recordedVersion = currentVersion then return .compatible
  if recordedVersion.isUpgrade currentVersion then return .stamp
  return .incompatible recordedText

end Compatibility

end SearchOperator
