import EtcdClient.Text.CodeRanges

/-
# Addresses of 32 bits

A host whose last part is a number is an address: up to four numbers with points between them and
perhaps one after the last. A number is decimal, octal after a `0` or of base 16 after `0x` or
`0X`, where `0x` alone is zero. Each number but the last gives one byte, the last one gives all
bytes that are left, so `127.1` and `0x7f000001` are the same address.
-/

namespace EtcdClient
namespace Host
namespace Ipv4

/-- The value of a digit below `base`. -/
def digit? (base : Nat) (c : Char) : Option Nat :=
  (Text.hexDigit? c).filter (· < base)

/-- The value of a run of digits. -/
def digits? (base : Nat) (cs : List Char) : Option Nat :=
  cs.foldlM (fun n c => (digit? base c).map (base * n + ·)) 0

/-- The value of one part. -/
def number? : List Char → Option Nat
  | [] => none
  | '0' :: 'x' :: cs => digits? 16 cs
  | '0' :: 'X' :: cs => digits? 16 cs
  | '0' :: c :: cs => digits? 8 (c :: cs)
  | cs => digits? 10 cs

/-- The parts between the points; one point at the end adds no part. -/
def parts (cs : List Char) : List (List Char) :=
  match (Text.pieces '.' cs).reverse with
  | [] :: p :: ps => (p :: ps).reverse
  | ps => ps.reverse

/-- The last part is meant as a number: it has digits alone or reads as one. -/
def endsInNumber (cs : List Char) : Bool :=
  match (parts cs).getLast? with
  | some (c :: last) => (c :: last).all Char.isDigit || (number? (c :: last)).isSome
  | _ => false

/-- The address that `count` bytes are left for: bytes first, then one number for the rest. A number
that no byte is left for is one too many, whatever it is. -/
def assemble? : Nat → List Nat → Option Nat
  | 0, _ => none
  | _, [] => none
  | count + 1, [n] => if n < Nat.pow 256 (count + 1) then some n else none
  | count + 1, n :: ns =>
    if n < 256 then (assemble? count ns).map (n * Nat.pow 256 count + ·) else none

/-- The address that a text writes. -/
def read? (cs : List Char) : Option UInt32 := do
  let numbers ← (parts cs).mapM number?
  let n ← assemble? 4 numbers
  return UInt32.ofNat n

example : read? "127.1".toList = read? "0x7f000001".toList := by decide
example : read? "1.2.3.4.5".toList = none ∧ read? "1.2.3.4.0".toList = none := by decide
example : endsInNumber "a.09".toList = true := by decide

end Ipv4
end Host
end EtcdClient
