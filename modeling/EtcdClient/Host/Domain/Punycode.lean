import EtcdClient.Text.Cut

/-
# Punycode

A label that starts with `xn--` writes other characters in ASCII. Up to the last hyphen stand the
ASCII characters of the label, behind it numbers of base 36, lowest digit first. Each number says
how far the insertion point moves on, where each round through the text raises the character to
insert by one. How long a number may get adapts to the numbers before it.
-/

namespace EtcdClient
namespace Host
namespace Domain
namespace Punycode

/-- The value of a digit of base 36, letters first. -/
def digit? (c : Char) : Option Nat :=
  if 'a' ≤ c ∧ c ≤ 'z' then some (c.toNat - 97)
  else if 'A' ≤ c ∧ c ≤ 'Z' then some (c.toNat - 65)
  else if c.isDigit then some (c.toNat - 22)
  else none

/-- A digit below this is the last of its number. -/
def threshold (place bias : Nat) : Nat := min 26 (max 1 (place - bias))

/-- Divides by 35 until at most 455 is left, and counts the steps by 36. -/
def shrink (delta count : Nat) : Nat × Nat :=
  if 455 < delta then shrink (delta / 35) (count + 36) else (delta, count)
termination_by delta
decreasing_by exact Nat.div_lt_self (by omega) (by omega)

/-- The bias after a number `delta` that made the text `size` characters long. -/
def adapt (delta size : Nat) (first : Bool) : Nat :=
  let d := if first then delta / 700 else delta / 2
  let (d, count) := shrink (d + d / size) 0
  count + 36 * d / (d + 38)

/-- A label that is being read. -/
structure State where
  text : List Nat
  /-- The character to insert. -/
  code : Nat := 128
  /-- The insertion point. -/
  point : Nat := 0
  bias : Nat := 72
  /-- Where the point stood before the current number. -/
  start : Nat := 0
  weight : Nat := 1
  place : Nat := 36

namespace State

/-- A number is complete: one character is inserted. -/
def insert? (s : State) : Option State :=
  let size := s.text.length + 1
  let code := s.code + s.point / size
  let point := s.point % size
  if code.isValidChar then
    some {
      text := s.text.take point ++ code :: s.text.drop point
      code
      point := point + 1
      bias := adapt (s.point - s.start) size (s.start == 0)
      start := point + 1 }
  else none

/-- Takes one digit. -/
def push? (s : State) (c : Char) : Option State := do
  let d ← digit? c
  let t := threshold s.place s.bias
  let s := { s with point := s.point + d * s.weight }
  if d < t then s.insert?
  else return { s with weight := s.weight * (36 - t), place := s.place + 36 }

end State

/-- The ASCII characters and the numbers of a label. -/
def divide (cs : List Char) : List Char × List Char :=
  match Text.cutLast '-' cs with
  | some (c :: front, back) => (c :: front, back)
  | _ => ([], cs)

/-- The characters that a label writes, none if its last number has no end. -/
def decode? (cs : List Char) : Option (List Nat) := do
  let (front, back) := divide cs
  let s ← back.foldlM State.push? { text := front.map Char.toNat }
  if s.place = 36 then return s.text else none

end Punycode
end Domain
end Host
end EtcdClient
