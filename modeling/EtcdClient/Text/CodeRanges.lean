import EtcdClient.Text.Cut

/-
# Sets of code points

Properties of characters are sets of code points, kept as the list of their ranges. The tables
write a set as text: its ranges in ascending order, in base 16, apart by blanks, a range of one
code point by its number alone, so that `30-39 5f` is the ASCII digits and the underscore.
-/

namespace EtcdClient
namespace Text

/-- A set of code points as ranges with both ends included. -/
abbrev CodeRanges := List (Nat × Nat)

/-- Holds of the code points in one of the ranges. -/
def CodeRanges.contains (r : CodeRanges) (n : Nat) : Bool :=
  r.any fun (low, high) => low ≤ n && n ≤ high

/-- The value of a digit in base 16. -/
def hexDigit? (c : Char) : Option Nat :=
  if c.isDigit then some (c.toNat - 48)
  else if 'a' ≤ c ∧ c ≤ 'f' then some (c.toNat - 87)
  else if 'A' ≤ c ∧ c ≤ 'F' then some (c.toNat - 55)
  else none

/-- The value of a run of digits in base 16, none if it is empty or has another character. -/
def hexNumber? (cs : List Char) : Option Nat :=
  if cs.isEmpty then none
  else cs.foldlM (fun n c => (hexDigit? c).map (16 * n + ·)) 0

/-- The parts of a text between blanks and line ends, the empty ones left out. -/
def words (s : String) : List (List Char) :=
  (pieces ' ' (s.toList.map fun c => if c = '\n' then ' ' else c)).filter (!·.isEmpty)

/-- One range as the tables write it. -/
def codeRange? (cs : List Char) : Option (Nat × Nat) :=
  match cutFirst '-' cs with
  | some (low, high) =>
    match hexNumber? low, hexNumber? high with
    | some a, some b => some (a, b)
    | _, _ => none
  | none => (hexNumber? cs).map fun n => (n, n)

/-- The set that a table writes. -/
def CodeRanges.ofText (s : String) : CodeRanges := (words s).filterMap codeRange?

end Text
end EtcdClient
