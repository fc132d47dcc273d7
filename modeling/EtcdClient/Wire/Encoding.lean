import EtcdClient.Wire.Message

/-
# Encoded messages

A message is encoded field by field. A field begins with a key, the number of the field times
eight plus the kind of its content:

| content | kind | encoding |
| --- | ---: | --- |
| numbers and truth values | 0 | groups of seven bits, the lowest first |
| bytes, texts, messages | 2 | the length, then the bytes |
| a list of numbers | 2 | the length in bytes, then the numbers |
| any other list | | one field for each element |

All groups of seven bits but the last have the top bit of their byte set. Negative numbers are
written as their two's complement of 64 bits.

Source: the requests of the services in `rpc.proto`.
-/

namespace EtcdClient

/-- A number in groups of seven bits. -/
def varint (n : Nat) : Bytes :=
  if n < 128 then [UInt8.ofNat n] else UInt8.ofNat (n % 128 + 128) :: varint (n / 128)
termination_by n
decreasing_by omega

/-- Bytes with their length in front. -/
def delimited (b : Bytes) : Bytes := varint b.length ++ b

/-- The key of a field. -/
def fieldKey (number kind : Nat) : Bytes := varint (8 * number + kind)

namespace Value

/-- The number that stands for a value of 64 bits at most. -/
def bits? : Value → Option Nat
  | int64 n => some n.toUInt64.toNat
  | uint64 n => some n.toNat
  | enum n => some n.toInt64.toUInt64.toNat
  | bool b => some b.toNat
  | _ => none

end Value

mutual

/-- The encoding of a message. -/
def encodeMessage : List Field → Bytes
  | [] => []
  | f :: fs => encodeField f ++ encodeMessage fs

/-- The encoding of one field. -/
def encodeField : Field → Bytes
  | .mk number _ v =>
    match v with
    | .list vs => encodeList number vs
    | v => encodeSingle number v

/-- The encoding of a value that is no list. -/
def encodeSingle (number : Nat) : Value → Bytes
  | .int64 n => fieldKey number 0 ++ varint n.toUInt64.toNat
  | .uint64 n => fieldKey number 0 ++ varint n.toNat
  | .enum n => fieldKey number 0 ++ varint n.toInt64.toUInt64.toNat
  | .bool b => fieldKey number 0 ++ varint b.toNat
  | .bytes b => fieldKey number 2 ++ delimited b
  | .text s => fieldKey number 2 ++ delimited (utf8 s)
  | .message fields => fieldKey number 2 ++ delimited (encodeMessage fields)
  | .list _ => []

/-- The encoding of a list. -/
def encodeList (number : Nat) (vs : List Value) : Bytes :=
  match vs.mapM Value.bits? with
  | some numbers => fieldKey number 2 ++ delimited (numbers.flatMap varint)
  -- A list of numbers is packed into one field, all others take a field for each element.
  | none => encodeElements number vs

/-- One field for each element. -/
def encodeElements (number : Nat) : List Value → Bytes
  | [] => []
  | v :: vs => encodeSingle number v ++ encodeElements number vs

end

namespace Message

/-- The encoding of a message. -/
def encode (m : Message) : Bytes := encodeMessage m

end Message
end EtcdClient
