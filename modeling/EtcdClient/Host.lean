import EtcdClient.Error
import EtcdClient.Host.Domain
import EtcdClient.Host.Ipv4
import EtcdClient.Host.Ipv6

/-
# Hosts

The host of an address is a domain name or an address of 32 or 128 bits.

| text | read as |
| --- | --- |
| begins with `[` | an address of 128 bits, which ends at a closing bracket |
| ends in a number | an address of 32 bits |
| any other | a domain name |

Outside brackets `%` and two digits of base 16 stand for a byte, and the bytes are a text in UTF-8.

Source: the host of an `Endpoint`, `SPEC_FULL.md` §10.6. What may be a host is left to the standard
of addresses on the web. This reader writes it out and is the one that the clients' endpoints are
read with, but what is said of endpoints holds for any reader in its place.
-/

namespace EtcdClient

/-- A host. -/
inductive Host
  | ipv4 (address : UInt32)
  | ipv6 (groups : List Nat)
  | domain (name : String)
  deriving DecidableEq

namespace Host

/-- Replaces each escape by the byte that it stands for. -/
def percentDecode : Bytes → Bytes
  | [] => []
  | [a] => [a]
  | [a, b] => [a, b]
  | a :: b :: c :: rest =>
    if a = 0x25 then
      match Text.hexDigit? (Char.ofNat b.toNat), Text.hexDigit? (Char.ofNat c.toNat) with
      | some high, some low => UInt8.ofNat (16 * high + low) :: percentDecode rest
      | _, _ => a :: percentDecode (b :: c :: rest)
    else a :: percentDecode (b :: c :: rest)

/-- Reads a host outside brackets. -/
def readName (s : String) : Except HostFault Host :=
  match (ofUtf8? (percentDecode (utf8 s))).bind Domain.read? with
  | none => .error .domain
  | some name =>
    if name.isEmpty then .error .empty
    -- The name is looked at after it was mapped, so digits in any script can make an address.
    else if Ipv4.endsInNumber name.toList then
      match Ipv4.read? name.toList with
      | some address => .ok (.ipv4 address)
      | none => .error .ipv4
    else .ok (.domain name)

/-- Reads a host behind an opening bracket. -/
def readBracketed (cs : List Char) : Except HostFault Host :=
  match cs.getLast? with
  | some ']' =>
    match Ipv6.read? cs.dropLast with
    | some groups => .ok (.ipv6 groups)
    | none => .error .ipv6
  | _ => .error .ipv6

/-- The host that a text writes. -/
def read (s : String) : Except HostFault Host :=
  match s.toList with
  | '[' :: cs => readBracketed cs
  | _ => readName s

end Host
end EtcdClient
