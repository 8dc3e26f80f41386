import VolumeDrain.Api.Client
import VolumeDrain.Manifest.Workload

/-!
# Leading

Of many operators one leads: the one that holds the lease. A holder renews its lease; anybody else
takes it over once it has expired, on condition that it is still the lease that was read.
-/
namespace VolumeDrain.Operator

open Api Manifest

/-- The name of the lease. -/
def leaseName : String := "buffer-drain-operator-leader"

/-- How long a lease is good for after it was renewed. -/
def leaseSeconds : Int32 := 15

/-- When the holder renews its lease. -/
def renewDelay : Delay := .seconds 10

/-- When to try again without the lease. -/
def retryLeaseDelay : Delay := .seconds 5

/-- Whether a lease has expired. A lease that was never renewed has. -/
def leaseExpired (now : Instant) (spec : Option LeaseSpec) : Bool :=
  match spec.bind LeaseSpec.renewTime with
  | none => true
  | some renewed =>
    let duration := (spec.bind LeaseSpec.leaseDurationSeconds).getD leaseSeconds
    renewed.nanos + duration.toInt * 1000000000 < now.nanos

/-- The change by which a holder renews its lease. -/
def renewPatch (now : Instant) : Json := .obj
  [("spec", .obj
    [("renewTime", encodeMicroTime now), ("leaseDurationSeconds", encode leaseSeconds)])]

/-- The change by which a candidate takes over the lease it has read. -/
def takeoverPatch (now : Instant) (identity : String) (lease : Lease) : Json := .obj
  [("metadata", .obj
    [("resourceVersion", .ofOption (lease.metadata.resourceVersion.map .str))]),
   ("spec", .obj
    [("holderIdentity", .str identity), ("acquireTime", encodeMicroTime now),
     ("renewTime", encodeMicroTime now), ("leaseDurationSeconds", encode leaseSeconds)])]

/-- A lease held from now on. -/
def newLease (now : Instant) (namespaceName identity : String) : Lease where
  metadata := { name := some leaseName, namespaceName := some namespaceName }
  spec := some
    { holderIdentity := some identity
      acquireTime := some now
      renewTime := some now
      leaseDurationSeconds := some leaseSeconds }

/-- Takes over a lease that has expired. A conflict means that somebody else was first. -/
def takeOver (now : Instant) (namespaceName identity : String) (lease : Lease) :
    ClientScript Bool :=
  ExceptT.mk do
    match ← (mergeObject Lease namespaceName leaseName (takeoverPatch now identity lease)).run with
    | .ok _ => return .ok true
    | .error e => return if e.isConflict then .ok false else .error e

/-- Tries to get or keep the lease. The result is whether the candidate leads. -/
def acquireOrRenew (now : Instant) (namespaceName identity : String) : ClientScript Bool := do
  match ← getObject? Lease namespaceName leaseName with
  | none =>
    discard (createObject namespaceName (newLease now namespaceName identity))
    return true
  | some lease =>
    if lease.spec.bind LeaseSpec.holderIdentity = some identity then
      discard (mergeObject Lease namespaceName leaseName (renewPatch now))
      return true
    else if leaseExpired now lease.spec then takeOver now namespaceName identity lease
    else return false

/-- What a round of the election comes to: whether the candidate leads, and when it tries again.
An error costs it the lead. -/
def electionRound (now : Instant) (namespaceName identity : String) : ApiScript (Bool × Delay) := do
  match ← (acquireOrRenew now namespaceName identity).run with
  | .ok true => return (true, renewDelay)
  | .ok false => return (false, retryLeaseDelay)
  | .error _ => return (false, retryLeaseDelay)

end VolumeDrain.Operator
