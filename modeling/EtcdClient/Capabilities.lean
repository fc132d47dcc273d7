import EtcdClient.Error

/-
# Server capabilities

What a cluster is known to understand. The members of a cluster may run different versions, and a
request can reach any of them, so the lowest version reported counts. As long as no version is
known nothing is held back.

Source: `SPEC_FULL.md` §10.7, `ServerCapabilities` with `observe`, `supports` and `require`.
-/

namespace EtcdClient

/-- The lowest version that members reported, if any did. -/
structure Capabilities where
  version : Option Version := none
  deriving DecidableEq

namespace Capabilities

/-- Nothing is known. -/
def unknown : Capabilities := ⟨none⟩

/-- Records the version that one member reports. Of two versions that compare equal the first
stays. -/
def observe (c : Capabilities) (reported : Version) : Capabilities :=
  match c.version with
  | some current => if current.atMost reported then c else ⟨some reported⟩
  | none => ⟨some reported⟩

/-- The server has the feature, as far as is known. -/
def supports (c : Capabilities) (f : Feature) : Bool :=
  match c.version with
  | some v => f.since.atMost v
  | none => true

/-- Refuses a feature that the server is known to lack. -/
def require (c : Capabilities) (f : Feature) : Result Unit :=
  match c.version with
  | some v => if (compare v f.since).isLT then .error (.unsupported f f.since v) else .ok ()
  | none => .ok ()

/-- Refuses a feature only where a request uses it. -/
def requireIf (c : Capabilities) (used : Bool) (f : Feature) : Result Unit :=
  if used then c.require f else .ok ()

end Capabilities
end EtcdClient
