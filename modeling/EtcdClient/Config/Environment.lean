import EtcdClient.Config
import EtcdClient.Environment.Dotenv
import EtcdClient.Environment.Reading

/-
# Configurations from the environment

Five variables can replace defaults, after the nearest settings file took effect. User name and
password must both have a value or both have none. The checks are made in the order credentials,
connect timeout, handshake timeout, and the first that fails is the error.

Source: `SPEC_FULL.md` §10.2, `from_env` and the names of its five variables.
-/

namespace EtcdClient
namespace Config

/-- Holds addresses with commas between them. -/
def endpointsVariable : String := "ETCDLINK_ENDPOINTS"

def usernameVariable : String := "ETCDLINK_USERNAME"

def passwordVariable : String := "ETCDLINK_PASSWORD"

/-- Holds a number of milliseconds, as does the variable for handshakes. -/
def connectTimeoutVariable : String := "ETCDLINK_CONNECT_TIMEOUT_MS"

def handshakeTimeoutVariable : String := "ETCDLINK_HANDSHAKE_TIMEOUT_MS"

/-- The endpoints that are given, or the default. -/
def environmentEndpoints (e : Environment) : List String :=
  match e.list endpointsVariable with
  -- A list of blanks and commas alone gives no endpoint and counts as not given.
  | [] => ({} : Config).endpoints
  | items => items

/-- The credentials that are given. -/
def environmentCredentials (e : Environment) : Result (Option Credentials) :=
  match e.value? usernameVariable, e.value? passwordVariable with
  | some username, some password => (Credentials.make username password).map some
  | none, none => .ok none
  | _, _ => .error (.config (.notTogether usernameVariable passwordVariable))

/-- A number of 64 bits that a variable gives. -/
def environmentNumber (e : Environment) (name : String) : Result (Option UInt64) :=
  (e.readUInt64 name).mapError fun fault => .config (.variable fault)

/-- The configuration that the variables give. -/
def ofEnvironment (e : Environment) : Result Config := do
  let credentials ← environmentCredentials e
  let connect ← environmentNumber e connectTimeoutVariable
  let handshake ← environmentNumber e handshakeTimeoutVariable
  let defaults : Config := {}
  return { defaults with
    endpoints := environmentEndpoints e
    credentials
    connectTimeoutMs := connect.getD defaults.connectTimeoutMs
    -- A handshake without a limit is the default, so there is nothing to fall back on.
    handshakeTimeoutMs := handshake }

/-- The configuration of a process that has its settings files loaded first. How a loader finds and
reads them is its own affair; it takes the files as it has them and gives back the environment. -/
def ofLoaded {φ : Type} (load : φ → Environment → Environment) (files : φ) (e : Environment) :
    Result Config :=
  ofEnvironment (load files e)

/-- The configuration of a process that is started in a directory. -/
def ofProcess (files : Dotenv.Files) (cwd : Dotenv.Directory) : Environment → Result Config :=
  ofLoaded (fun files e => (Dotenv.load files cwd e).1) files

end Config
end EtcdClient
