import EtcdClient.Text.Quoted

/-
# Call statuses

A call that fails ends in a status: one of seventeen codes and a message. A server writes the code
as a number, and a number that is no code stands for `unknown`.

Source: the status in the `Grpc` error of `SPEC_FULL.md` §10.2.
-/

namespace EtcdClient

/-- The kind of outcome of a call. -/
inductive StatusCode
  | ok
  | cancelled
  | unknown
  | invalidArgument
  | deadlineExceeded
  | notFound
  | alreadyExists
  | permissionDenied
  | resourceExhausted
  | failedPrecondition
  | aborted
  | outOfRange
  | unimplemented
  | internal
  | unavailable
  | dataLoss
  | unauthenticated
  deriving DecidableEq

namespace StatusCode

/-- All codes in the order of their numbers. -/
def all : List StatusCode :=
  [ok, cancelled, unknown, invalidArgument, deadlineExceeded, notFound, alreadyExists,
    permissionDenied, resourceExhausted, failedPrecondition, aborted, outOfRange, unimplemented,
    internal, unavailable, dataLoss, unauthenticated]

/-- The code with a number. -/
def ofNumber (n : Int) : StatusCode :=
  if n < 0 then unknown else (all[n.toNat]?).getD unknown

/-- The name of a code. -/
def name : StatusCode → String
  | ok => "Ok"
  | cancelled => "Cancelled"
  | unknown => "Unknown"
  | invalidArgument => "InvalidArgument"
  | deadlineExceeded => "DeadlineExceeded"
  | notFound => "NotFound"
  | alreadyExists => "AlreadyExists"
  | permissionDenied => "PermissionDenied"
  | resourceExhausted => "ResourceExhausted"
  | failedPrecondition => "FailedPrecondition"
  | aborted => "Aborted"
  | outOfRange => "OutOfRange"
  | unimplemented => "Unimplemented"
  | internal => "Internal"
  | unavailable => "Unavailable"
  | dataLoss => "DataLoss"
  | unauthenticated => "Unauthenticated"

end StatusCode

/-- How a call ended. -/
structure Status where
  code : StatusCode
  message : String
  deriving DecidableEq

namespace Status

/-- The status in words. -/
def text (s : Status) : String :=
  "status: " ++ s.code.name ++ ", message: " ++ Text.quoted s.message ++
    ", details: [], metadata: MetadataMap \x7b headers: \x7b\x7d \x7d"

/-- A call that succeeded without a reply message. -/
def missingReply : Status := ⟨.internal, "Missing response message."⟩

/-- A reply that is no message of its format. -/
def undecodable : Status := ⟨.internal, "failed to decode the reply"⟩

/-- A call to a member that accepts no connection. -/
def unreachable : Status := ⟨.unavailable, "tcp connect error"⟩

end Status
end EtcdClient
