import EtcdClient.Bytes

/-
# Messages

A message is a list of fields in the order of their numbers. A field with its default (zero, the
empty text, no element) is left out, a field that holds a message is left out if it is not set,
and of the members of a choice only the one chosen is there, whatever it holds. So two messages
with the same content are the same list.

Source: the messages of `rpc.proto`, `auth.proto` and `kv.proto`.
-/

namespace EtcdClient

mutual

/-- What a field holds. -/
inductive Value
  | int64 (n : Int64)
  | uint64 (n : UInt64)
  | enum (n : Int32)
  | bool (b : Bool)
  | bytes (b : Bytes)
  | text (s : String)
  | message (fields : List Field)
  | list (values : List Value)

/-- A field of a message. -/
inductive Field
  | mk (number : Nat) (name : String) (value : Value)

end

/-- A message as its fields. -/
abbrev Message := List Field

instance : Inhabited Value := ⟨.bool false⟩

namespace Value

/-- The value that is not written. A message has none, since an empty message is one that is set. -/
def isDefault : Value → Bool
  | int64 n => n == 0
  | uint64 n => n == 0
  | enum n => n == 0
  | bool b => !b
  | bytes b => b.isEmpty
  | text s => s.isEmpty
  | message _ => false
  | list vs => vs.isEmpty

end Value

namespace Field

def number : Field → Nat
  | mk n _ _ => n

def name : Field → String
  | mk _ s _ => s

def value : Field → Value
  | mk _ _ v => v

/-- A field that is there unless it has its default. -/
def plain (number : Nat) (name : String) (v : Value) : Message :=
  if v.isDefault then [] else [mk number name v]

/-- A field that is there whatever it holds. -/
def chosen (number : Nat) (name : String) (v : Value) : Message := [mk number name v]

/-- A field for a message that may not be set. -/
def optional (number : Nat) (name : String) (m : Option Message) : Message :=
  match m with
  | some fields => [mk number name (.message fields)]
  | none => []

end Field

namespace Message

/-- The value of the field with a number. -/
def get? (m : Message) (number : Nat) : Option Value :=
  (m.find? fun f => f.number = number).map Field.value

/-- The number in a field, zero if it is left out; so for the other types. -/
def int64 (m : Message) (number : Nat) : Int64 :=
  match m.get? number with
  | some (.int64 n) => n
  | _ => 0

def uint64 (m : Message) (number : Nat) : UInt64 :=
  match m.get? number with
  | some (.uint64 n) => n
  | _ => 0

def enum (m : Message) (number : Nat) : Int32 :=
  match m.get? number with
  | some (.enum n) => n
  | _ => 0

def bool (m : Message) (number : Nat) : Bool :=
  match m.get? number with
  | some (.bool b) => b
  | _ => false

def bytes (m : Message) (number : Nat) : Bytes :=
  match m.get? number with
  | some (.bytes b) => b
  | _ => []

def text (m : Message) (number : Nat) : String :=
  match m.get? number with
  | some (.text s) => s
  | _ => ""

/-- The message in a field, if it is set. -/
def message? (m : Message) (number : Nat) : Option Message :=
  match m.get? number with
  | some (.message fields) => some fields
  | _ => none

def list (m : Message) (number : Nat) : List Value :=
  match m.get? number with
  | some (.list vs) => vs
  | _ => []

end Message
end EtcdClient
