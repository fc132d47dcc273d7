import EtcdClient.Call
import EtcdClient.Config

/-
# Connecting

A client is made of a configuration in these steps, of which the first that fails ends the attempt:

| step | can fail |
| --- | --- |
| the addresses are read | yes |
| a channel is built, and opened if there is one member alone | yes |
| the credentials, if there are any, are checked and exchanged for a token | yes |
| every member is asked for its version, if that is wanted | no |

Members that do not answer in time, or answer with what is no version, are left out. What a
cluster does is given by a `Network`; a channel over several members is opened when it is used, so
it never fails before.

Source: `SPEC_FULL.md` §10.3 on the bearer token and §10.7 on the detection of versions; `connect`
with `open_channel`, `authenticate`, `detect_capabilities` and `member_version`.
-/

namespace EtcdClient

/-- What a member does with the question for its version. -/
inductive StatusAnswer
  | reply (r : Reply)
  /-- No reply in time. -/
  | silent

/-- What is behind the addresses. -/
structure Network where
  /-- A member accepts connections. -/
  accepts : Endpoint → Bool
  /-- The reply to a request over the channel. -/
  reply : Sent → Reply
  /-- The answer of the member at a position among the addresses to the question for its version. An
  address that is listed twice is asked twice. -/
  status : Endpoint × Nat → StatusAnswer

/-- A request that was made while connecting, over the channel or to one member. -/
inductive Asked
  | channel (sent : Sent)
  | member (e : Endpoint) (sent : Sent)

/-- The version that a member reports. -/
def StatusAnswer.version? : StatusAnswer → Option Version
  | .silent => none
  | .reply r =>
    match r.outcome .status with
    | .ok m =>
      -- Field 2 of the reply is the version; a member that writes none is left out like a silent
      -- one.
      match Version.parse (m.text 2) with
      | .ok v => some v
      | .error _ => none
    | .error _ => none

namespace Connect

/-- Addresses that a channel can be built for, and opened if there is only one. -/
def openChannel (n : Network) (endpoints : List Endpoint) : Result Unit :=
  if !endpoints.all Endpoint.isReachable then .error (.transport "invalid address")
  else
    match endpoints with
    | [single] => if n.accepts single then .ok () else .error (.transport "transport error")
    -- Several members share a channel that is opened when it is used.
    | _ => .ok ()

/-- The request that exchanges credentials for a token. -/
def authenticateRequest (c : Credentials) : Sent := ⟨.authenticate c.username c.password, []⟩

/-- The token for checked credentials. -/
def authenticate (n : Network) (c : Credentials) : Result Token :=
  match (n.reply (authenticateRequest c)).outcome .authenticate with
  -- Field 2 of the reply is the token, which may be none that can be sent.
  | .ok m => Token.make (m.text 2)
  -- A refusal by the server is told apart from every other way to fail.
  | .error (.grpc s) => .error (.authFailed s)
  | .error e => .error e

/-- The token for what a configuration has, and what was asked for it. -/
def obtainToken (n : Network) : Option Credentials → List Asked × Result (Option Token)
  | none => ([], .ok none)
  | some c =>
    match c.checked with
    | .error e => ([], .error e)
    | .ok c => ([.channel (authenticateRequest c)], (authenticate n c).map some)

/-- The question for a member's version. -/
def statusRequest : Sent := ⟨.status, []⟩

/-- The versions that members report, in the order of the addresses. -/
def reported (n : Network) (endpoints : List Endpoint) : List Version :=
  endpoints.zipIdx.filterMap fun member => (n.status member).version?

/-- What the members that answer are known to understand. -/
def detect (n : Network) (endpoints : List Endpoint) : Capabilities :=
  (reported n endpoints).foldl Capabilities.observe .unknown

/-- What a client knows before it is used, and what was asked for it. -/
def detection (n : Network) (c : Config) (endpoints : List Endpoint) :
    List Asked × Capabilities :=
  -- Each member is asked over a connection of its own, and without the token.
  if c.detectVersion then (endpoints.map (.member · statusRequest), detect n endpoints)
  else ([], .unknown)

end Connect

/-- Connects as a configuration says: what was asked in order, and the client. -/
def Client.connect (n : Network) (c : Config) : List Asked × Result Client :=
  match c.parsedEndpoints with
  | .error e => ([], .error e)
  | .ok endpoints =>
    match Connect.openChannel n endpoints with
    | .error e => ([], .error e)
    | .ok () =>
      match Connect.obtainToken n c.credentials with
      | (asked, .error e) => (asked, .error e)
      | (asked, .ok token) =>
        -- Detection cannot fail: members that do not answer only leave less known.
        let (members, capabilities) := Connect.detection n c endpoints
        (asked ++ members, .ok ⟨token, capabilities, c.handshakeTimeout⟩)

end EtcdClient
