import EtcdClient.Duration
import EtcdClient.Feature
import EtcdClient.Status
import EtcdClient.Version.Reading

/-
# Errors

An error names its cause; `ClientError.message` is the one place where causes become words. The
causes that a caller can bring about by a wrong argument, address or setting have types of their
own, each with a case `stated` for a cause that a caller gives in words.

| error | arises when |
| --- | --- |
| `grpc` | a call or a stream failed |
| `transport` | a channel could not be built or connected |
| `invalidEndpoint` | an address is malformed |
| `invalidArgument` | an argument is refused before anything is sent |
| `leaseNotFound` | the first keep-alive response has no time to live left |
| `handshakeTimeout` | a session had no first response in time |
| `streamClosed` | a stream ended before its session was ready |
| `schedulerRejected` | a heartbeat was refused while its session was open |
| `schedulerStart` | no scheduler could be started |
| `unsupported` | a request needs a newer server |
| `authFailed` | the credentials were not accepted |
| `invalidMetadata` | a token cannot be sent |
| `config` | the settings contradict themselves |

Source: `SPEC_FULL.md` §7 and §10.2 on error handling, `ClientError`.
-/

namespace EtcdClient

/-- Why a text is no host. -/
inductive HostFault
  | ipv6
  | ipv4
  | domain
  | empty
  deriving DecidableEq

/-- The fault in words. -/
def HostFault.message : HostFault → String
  | .ipv6 => "invalid IPv6 address"
  | .ipv4 => "invalid IPv4 address"
  | .domain => "invalid international domain name"
  | .empty => "empty host"

/-- Why a text is no endpoint. -/
inductive EndpointFault
  | blank
  | unsupportedScheme (scheme : String)
  | portRequired
  | invalidPort (port : String) (fault : Text.NumeralFault)
  | emptyHost
  | invalidHost (host : String) (fault : HostFault)
  | noneGiven
  | stated (message : String)
  deriving DecidableEq

/-- The fault in words, without the address. -/
def EndpointFault.message : EndpointFault → String
  | .blank => "endpoint is empty"
  | .unsupportedScheme scheme => "unsupported scheme '" ++ scheme ++ "'"
  | .portRequired => "port is required"
  | .invalidPort port fault => "invalid port '" ++ port ++ "': " ++ fault.message
  | .emptyHost => "host is empty"
  | .invalidHost host fault => "invalid host '" ++ host ++ "': " ++ fault.message
  | .noneGiven => "at least one endpoint is required"
  | .stated message => message

/-- Why an argument is refused. -/
inductive ArgumentFault
  /-- A number below zero where none is allowed. -/
  | negative (what : String) (n : Int64)
  /-- A number at or below zero where none is allowed. -/
  | notPositive (what : String) (n : Int64)
  /-- A text without a character that is not blank. -/
  | blank (what : String)
  | noPeerUrl
  | version (text : String) (fault : VersionFault)
  | stated (message : String)
  deriving DecidableEq

/-- The fault in words, with the value that is refused. -/
def ArgumentFault.message : ArgumentFault → String
  | .negative what n => what ++ " must be >= 0, got " ++ Text.signedText n.toInt
  | .notPositive what n => what ++ " must be > 0, got " ++ Text.signedText n.toInt
  | .blank what => what ++ " can not be empty"
  | .noPeerUrl => "at least one peer url is required"
  | .version text .malformed => "invalid version '" ++ text ++ "'"
  | .version text .emptyPreRelease => "invalid version '" ++ text ++ "': empty pre-release"
  | .stated message => message

/-- Why a text does not read as a value of a type. -/
inductive ReadFault
  | numeral (fault : Text.NumeralFault)
  | noTruthValue
  | noCharacter
  | manyCharacters
  deriving DecidableEq

/-- The fault in words. -/
def ReadFault.message : ReadFault → String
  | .numeral fault => fault.message
  | .noTruthValue => "provided string was not `true` or `false`"
  | .noCharacter => "cannot parse char from empty string"
  | .manyCharacters => "too many characters in string"

/-- A variable of the environment whose value does not read. -/
structure VariableFault where
  key : String
  value : String
  fault : ReadFault
  deriving DecidableEq

/-- The fault in words, with the name and the value of the variable. -/
def VariableFault.message (e : VariableFault) : String :=
  "Environment variable " ++ e.key ++ "='" ++ e.value ++ "' is invalid: " ++ e.fault.message

/-- Why settings are refused. -/
inductive ConfigFault
  /-- One of two variables is set that must be set together. -/
  | notTogether (first second : String)
  | variable (fault : VariableFault)
  | stated (message : String)
  deriving DecidableEq

/-- The fault in words. -/
def ConfigFault.message : ConfigFault → String
  | .notTogether first second => first ++ " and " ++ second ++ " must be set together"
  | .variable fault => fault.message
  | .stated message => message

/-- Why a text cannot be sent as metadata. -/
inductive MetadataFault
  | token
  | stated (message : String)
  deriving DecidableEq

/-- The fault in words. -/
def MetadataFault.message : MetadataFault → String
  | .token => "auth token is not valid ASCII metadata: failed to parse metadata value"
  | .stated message => message

/-- What can go wrong in a client. -/
inductive ClientError
  | grpc (status : Status)
  | transport (reason : String)
  | invalidEndpoint (endpoint : String) (fault : EndpointFault)
  | invalidArgument (fault : ArgumentFault)
  | leaseNotFound (lease : Int64)
  | handshakeTimeout (what : String) (timeout : Duration)
  | streamClosed (what : String)
  | schedulerRejected (lease : Int64)
  | schedulerStart (lease : Int64) (reason : String)
  | unsupported (feature : Feature) (required detected : Version)
  | authFailed (status : Status)
  | invalidMetadata (fault : MetadataFault)
  | config (fault : ConfigFault)
  deriving DecidableEq

/-- The error in words. -/
def ClientError.message : ClientError → String
  | .grpc status => "gRPC error: " ++ status.text
  | .transport reason => "Transport error: " ++ reason
  | .invalidEndpoint endpoint fault =>
    "Invalid endpoint '" ++ endpoint ++ "': " ++ fault.message
  | .invalidArgument fault => "Invalid argument: " ++ fault.message
  | .leaseNotFound lease =>
    "Lease " ++ Text.hexText lease ++ " not found, it may have expired already"
  | .handshakeTimeout what timeout =>
    "Timed out after " ++ timeout.text ++ " waiting for " ++ what
  | .streamClosed what => "Stream closed: " ++ what
  | .schedulerRejected lease =>
    "Keep-alive scheduler of lease " ++ Text.hexText lease ++
      " rejected a heartbeat while the session is open"
  | .schedulerStart lease reason =>
    "Failed to start the keep-alive scheduler of lease " ++ Text.hexText lease ++ ": " ++ reason
  | .unsupported feature required detected =>
    feature.text ++ " requires etcd " ++ required.text ++ " or later, the server runs " ++
      detected.text
  | .authFailed status => "Authentication failed: " ++ status.text
  | .invalidMetadata fault => "Invalid metadata: " ++ fault.message
  | .config fault => "Invalid configuration: " ++ fault.message

/-- What a step of the client gives: a result or an error. -/
abbrev Result (α : Type) := Except ClientError α

/-- The version that a text writes; a text that writes none is a wrong argument. -/
def Version.parse (s : String) : Result Version :=
  (Version.read s).mapError fun fault => .invalidArgument (.version s fault)

end EtcdClient
