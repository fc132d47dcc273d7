import EtcdClient.Host
import EtcdClient.Text.Blank

/-
# Endpoints

An endpoint is the address of one cluster member. It is written `host:port` or
`scheme://host:port`, where no scheme means `http`. Read from the outside to the inside:

| passed over or cut off | where |
| --- | --- |
| blanks | at both ends |
| the scheme | in front of the first `://` |
| slashes | at the end |
| the port | behind the last colon that is left |

Everything in between is the host, which is kept as it is written. What a host is, is not settled
here: the readers ask another reader for it, which stands for the standard of addresses on the web.
`Host.read` is the one that clients use. The first fault met in the order blank, scheme, port, empty
host, host is reported.

Source: `SPEC_FULL.md` §10.6, `Endpoint` with its reading and its spelling, and `parse_endpoints`.
-/

namespace EtcdClient

/-- How a member is talked to. -/
inductive Scheme
  | http
  | https
  deriving DecidableEq

namespace Scheme

def all : List Scheme := [http, https]

/-- The name of a scheme, in lower case. -/
def text : Scheme → String
  | http => "http"
  | https => "https"

/-- The scheme with a name, in any mix of ASCII case. -/
def ofName? (s : String) : Option Scheme :=
  all.find? fun scheme => scheme.text.toList = s.toList.map Char.toLower

end Scheme

/-- The address of one cluster member. -/
structure Endpoint where
  scheme : Scheme := .http
  host : String
  port : UInt16
  deriving DecidableEq

namespace Endpoint

/-- The address with its scheme and port, which reads as the same endpoint again if its host is
one. -/
def text (e : Endpoint) : String :=
  e.scheme.text ++ "://" ++ e.host ++ ":" ++ Text.decimalText e.port.toNat

section HostReader

variable {η : Type} (readHost : String → Except HostFault η)

/-- Reads what is behind the scheme. -/
def readAuthority (scheme : Scheme) (cs : List Char) : Except EndpointFault Endpoint :=
  -- Slashes go before the port is cut off, so that `host:1/` reads like `host:1`.
  match Text.cutLast ':' (Text.dropTrailing (· == '/') cs) with
  | none => .error .portRequired
  | some (host, port) =>
    match Text.readUInt16 port with
    | .error fault => .error (.invalidPort (String.ofList port) fault)
    | .ok port =>
      let host := String.ofList host
      -- The host is looked at last, after the port: of two faults that of the port is reported.
      if host = "" then .error .emptyHost
      else
        match readHost host with
        | .error fault => .error (.invalidHost host fault)
        | .ok _ => .ok ⟨scheme, host, port⟩

/-- The endpoint that a text writes. -/
def readWith (s : String) : Except EndpointFault Endpoint :=
  let body := Text.trimChars s.toList
  if body = [] then .error .blank
  else
    -- Only the first `://` stands behind a scheme; a text without one is all authority.
    match Text.cutAt [':', '/', '/'] body with
    | none => readAuthority readHost .http body
    | some (name, rest) =>
      match Scheme.ofName? (String.ofList name) with
      | some scheme => readAuthority readHost scheme rest
      | none => .error (.unsupportedScheme (String.ofList name))

/-- The endpoint that a text writes; the error names the text as it was given. -/
def parseWith (s : String) : Result Endpoint :=
  (readWith readHost s).mapError (.invalidEndpoint s)

/-- The endpoints that the texts write, at least one; the error is that of the first bad text. -/
def parseAllWith (texts : List String) : Result (List Endpoint) := do
  let endpoints ← texts.mapM (parseWith readHost)
  if endpoints.isEmpty then .error (.invalidEndpoint "" .noneGiven) else .ok endpoints

end HostReader

/-- The endpoint that a text writes, as clients read it. -/
def parse : String → Result Endpoint := parseWith Host.read

/-- The endpoints that the texts write, as clients read them. -/
def parseAll : List String → Result (List Endpoint) := parseAllWith Host.read

/-- A character that may stand in the authority of a request's address. -/
def isAuthorityChar (c : Char) : Bool :=
  0x21 ≤ c.toNat && c.toNat < 0x7F &&
    c ∉ ['\x22', '%', '<', '>', '\\', '^', '\x60', '\x7b', '|', '\x7d']

/-- The host can be written into a request. An address may be given that cannot, since it is read
as the host that it stands for but is sent as it is written. -/
def isReachable (e : Endpoint) : Bool := e.host.toList.all isAuthorityChar

end Endpoint
end EtcdClient
