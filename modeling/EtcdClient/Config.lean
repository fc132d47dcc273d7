import EtcdClient.Config.Document
import EtcdClient.Credentials
import EtcdClient.Endpoint

/-
# Configurations

What a client is told about the cluster. Every setting has a default, and a configuration can be
written as a JSON document: an object with some of the fields, where others are passed over, or a
list of the fields in this order, of which the last ones may be left out.

| field | value | default |
| --- | --- | --- |
| `endpoints` | list of addresses | one member on this machine |
| `credentials` | object or list of `username` and `password`, or null | none |
| `connect_timeout_ms` | number | 5000 |
| `detect_version` | truth value | true |
| `version_detect_timeout_ms` | number | 10000 |
| `handshake_timeout_ms` | number or null | none |

Addresses and credentials are kept as they are written; they are checked when they are used.

Source: `SPEC_FULL.md` §10.2, `ClientConfig` with its defaults, `parsed_endpoints` and
`session_options`.
-/

namespace EtcdClient

/-- The address of a member on this machine. -/
def defaultEndpoint : String := "http://127.0.0.1:2379"

/-- What a client is told about the cluster. -/
structure Config where
  endpoints : List String := [defaultEndpoint]
  credentials : Option Credentials := none
  connectTimeoutMs : UInt64 := 5000
  detectVersion : Bool := true
  versionDetectTimeoutMs : UInt64 := 10000
  handshakeTimeoutMs : Option UInt64 := none
  deriving DecidableEq

namespace Config

/-- The addresses as endpoints, at least one, in view of what a host is. -/
def parsedEndpointsWith {η : Type} (readHost : String → Except HostFault η) (c : Config) :
    Result (List Endpoint) :=
  Endpoint.parseAllWith readHost c.endpoints

/-- The addresses as endpoints, as clients read them. -/
def parsedEndpoints : Config → Result (List Endpoint) := parsedEndpointsWith Host.read

/-- How long an attempt to open a channel may take. -/
def connectTimeout (c : Config) : Duration := .ofMillis c.connectTimeoutMs.toNat

/-- How long a member may take to report its version. -/
def versionDetectTimeout (c : Config) : Duration := .ofMillis c.versionDetectTimeoutMs.toNat

/-- How long sessions wait for their first response. -/
def handshakeTimeout (c : Config) : Option Duration :=
  c.handshakeTimeoutMs.map fun ms => .ofMillis ms.toNat

/-- Credentials as a document writes them. -/
def credentials? (d : Document) : Option Credentials :=
  match d.fields? ["username", "password"] with
  | some [some username, some password] => do
    return ⟨← username.text?, ← password.text?⟩
  | _ => none

/-- The names of the fields in order. -/
def fieldNames : List String :=
  ["endpoints", "credentials", "connect_timeout_ms", "detect_version",
    "version_detect_timeout_ms", "handshake_timeout_ms"]

/-- The configuration that a document is. -/
def ofDocument? (d : Document) : Option Config :=
  match d.fields? fieldNames with
  | some [endpoints, credentials, connect, detect, versionDetect, handshake] => do
    let defaults : Config := {}
    return {
      endpoints := ← Document.field? (Document.list? Document.text?) defaults.endpoints endpoints
      credentials :=
        ← Document.field? (Document.optional? credentials?) defaults.credentials credentials
      connectTimeoutMs := ← Document.field? Document.uint64? defaults.connectTimeoutMs connect
      detectVersion := ← Document.field? Document.bool? defaults.detectVersion detect
      versionDetectTimeoutMs :=
        ← Document.field? Document.uint64? defaults.versionDetectTimeoutMs versionDetect
      handshakeTimeoutMs :=
        ← Document.field? (Document.optional? Document.uint64?) defaults.handshakeTimeoutMs
          handshake }
  | _ => none

/-- The configuration that a text writes. -/
def ofText? (s : String) : Option Config := (Document.ofText? s).bind ofDocument?

end Config
end EtcdClient
