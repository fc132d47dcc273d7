import EtcdClient.Host.Domain.BidiTable

/-
# Direction of labels

In a name with a character that runs from right to left every label must be readable in one
direction:

| label | begins with | may hold | ends, marks apart, with |
| --- | --- | --- | --- |
| from left to right | L | L EN ES CS ET ON BN NSM | L EN |
| from right to left | R AL | R AL AN EN ES CS ET ON BN NSM, not both AN and EN | R AL EN AN |
-/

namespace EtcdClient
namespace Host
namespace Domain

/-- The directional classes that can occur in a name. -/
inductive Direction
  | left
  | right
  | arabic
  | arabicNumber
  | europeanNumber
  | europeanSeparator
  | commonSeparator
  | europeanTerminator
  | otherNeutral
  | boundaryNeutral
  | nonspacing
  deriving DecidableEq

namespace Direction

/-- The classes other than L with their code points. -/
def tables : List (Text.CodeRanges × Direction) :=
  [(rightRanges, right), (arabicRanges, arabic), (arabicNumberRanges, arabicNumber),
    (europeanNumberRanges, europeanNumber), (europeanSeparatorRanges, europeanSeparator),
    (commonSeparatorRanges, commonSeparator), (europeanTerminatorRanges, europeanTerminator),
    (otherNeutralRanges, otherNeutral), (boundaryNeutralRanges, boundaryNeutral),
    (nonspacingRanges, nonspacing)]

/-- The class of a code point. -/
def ofCode (n : Nat) : Direction :=
  ((tables.find? fun (r, _) => r.contains n).map (·.2)).getD left

/-- A character that makes a name one of two directions. -/
def runsLeft (d : Direction) : Bool := d = right ∨ d = arabic ∨ d = arabicNumber

/-- The last class of a label that is no nonspacing mark. -/
def final (ds : List Direction) : Option Direction := ds.reverse.find? (· ≠ nonspacing)

/-- The label reads from left to right. -/
def readsRight (ds : List Direction) : Bool :=
  ds.head? = some left && ds.all (fun d => d = left ∨ ¬d.runsLeft) &&
    (final ds = some left || final ds = some europeanNumber)

/-- The label reads from right to left. -/
def readsLeft (ds : List Direction) : Bool :=
  (ds.head? = some right || ds.head? = some arabic) && ds.all (· ≠ left) &&
    ((final ds).any fun d => d.runsLeft || d = europeanNumber) &&
    !(ds.contains europeanNumber && ds.contains arabicNumber)

end Direction

/-- No label of the name mixes directions; empty labels do not count. -/
def directed (labels : List (List Nat)) : Bool :=
  let directions := labels.map (·.map Direction.ofCode)
  !(directions.any (·.any Direction.runsLeft)) ||
    directions.all fun ds => ds.isEmpty || Direction.readsRight ds || Direction.readsLeft ds

end Domain
end Host
end EtcdClient
