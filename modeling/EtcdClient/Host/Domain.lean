import EtcdClient.Bytes
import EtcdClient.Host.Domain.Bidi
import EtcdClient.Host.Domain.Joiner
import EtcdClient.Host.Domain.Mapping
import EtcdClient.Host.Domain.Punycode

/-
# Domain names

A domain name is mapped and normalized, then cut into labels at its points. A label in Punycode is
read, and what it writes must be mapped and normalized already and not plain ASCII. All labels obey
the rules of marks, joiners and directions, and none holds a character that would end the host in
an address.
-/

namespace EtcdClient
namespace Host
namespace Domain

/-- ASCII characters that may not stand in a domain name. -/
def isForbidden (n : Nat) : Bool :=
  n ≤ 0x20 || n = 0x7F || "%#/:<>?@[\\]^|".toList.any (·.toNat = n)

/-- A label does not begin with a mark and its joiners fit. -/
def wellFormed (label : List Nat) : Bool :=
  !(label.head?.any markRanges.contains) && joinersFit [] label

/-- Labels in Punycode above this length are refused. -/
def punycodeLimit : Nat := 2000

/-- Labels that would have to be written in Punycode above this length are refused. -/
def labelLimit : Nat := 1000

/-- Reads what stands behind `xn--`. -/
def decodeLabel? (ns : List Nat) : Option (List Nat) :=
  if ns.all (· < 128) ∧ ns.length ≤ punycodeLimit then do
    let label ← Punycode.decode? (ns.map Char.ofNat)
    if label.all (· < 128) || !label.all isPlain || normalize label ≠ label then none
    else return label
  else none

/-- The label in Unicode. -/
def label? : List Nat → Option (List Nat)
  | 0x78 :: 0x6E :: 0x2D :: 0x2D :: ns => decodeLabel? ns
  | ns => if ns.length ≤ labelLimit ∨ ns.all (· < 128) then some ns else none

/-- The parts of a text between its points. -/
def labels (ns : List Nat) : List (List Nat) :=
  (Text.pieces '.' (ns.map Char.ofNat)).map (·.map Char.toNat)

/-- The name that a text writes, in Unicode, with points between its labels. -/
def read? (s : String) : Option String := do
  let ns ← map? (s.toList.map Char.toNat)
  let ls ← (labels (normalize ns)).mapM label?
  if ls.all wellFormed && directed ls && !ls.any (·.any isForbidden) then
    return ".".intercalate (ls.map fun l => String.ofList (l.map Char.ofNat))
  else none

end Domain
end Host
end EtcdClient
