import EtcdClient.Text.CodeRanges
import EtcdClient.Text.Numeral

/-
# Addresses of 128 bits

Eight groups of one to four digits in base 16 with colons between them. `::` may stand once for
one or more groups of zero, and the last two groups may be written as four decimal bytes with
points between them, without leading zeros.
-/

namespace EtcdClient
namespace Host
namespace Ipv6

/-- One group. -/
def group? (cs : List Char) : Option Nat :=
  if cs.length ≤ 4 then Text.hexNumber? cs else none

/-- One decimal byte. -/
def byte? : List Char → Option Nat
  | ['0'] => some 0
  | '0' :: _ => none
  | cs =>
    if cs.all Char.isDigit then
      match Text.readNatural 255 cs with
      | .ok n => some n
      | .error _ => none
    else none

/-- The two groups that four decimal bytes make. -/
def dotted? (cs : List Char) : Option (List Nat) :=
  match (Text.pieces '.' cs).mapM byte? with
  | some [a, b, c, d] => some [256 * a + b, 256 * c + d]
  | _ => none

/-- The groups at the end of an address, of which the last may be dotted. -/
def closing? : List (List Char) → Option (List Nat)
  | [] => some []
  | [cs] => if '.' ∈ cs then dotted? cs else (group? cs).map ([·])
  | cs :: rest => do
    let n ← group? cs
    let ns ← closing? rest
    return n :: ns

/-- The parts between the colons, none in an empty text. -/
def groups (cs : List Char) : List (List Char) :=
  if cs.isEmpty then [] else Text.pieces ':' cs

/-- The eight groups of the address that a text writes. -/
def read? (cs : List Char) : Option (List Nat) :=
  match Text.cutAt [':', ':'] cs with
  | some (front, back) => do
    let left ← (groups front).mapM group?
    let right ← closing? (groups back)
    if left.length + right.length < 8 then
      return left ++ List.replicate (8 - left.length - right.length) 0 ++ right
    else none
  | none => (closing? (Text.pieces ':' cs)).filter (·.length = 8)

example : read? "::1".toList = some [0, 0, 0, 0, 0, 0, 0, 1] := by decide
example : read? "1::127.0.0.1".toList = some [1, 0, 0, 0, 0, 0, 0x7f00, 1] := by decide
example : read? "1:2:3:4:5:6:7:8::".toList = none := by decide

end Ipv6
end Host
end EtcdClient
