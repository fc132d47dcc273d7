import EtcdClient.Host.Domain.MappingTable

/-
# The mapping step

Before a name is read its characters are mapped: letters to lower case, compatibility forms to the
characters that they stand for, and some to nothing. A name with a character that neither stands
for itself nor for others is no domain name.
-/

namespace EtcdClient
namespace Host
namespace Domain

/-- Characters at regular distances and what they stand for. -/
structure MappingRule where
  first : Nat
  last : Nat
  step : Nat
  /-- The results follow each other as the characters do; otherwise they are all the same. -/
  moving : Bool
  target : List Nat

/-- One rule as the table writes it. -/
def MappingRule.ofChars? (cs : List Char) : Option MappingRule := do
  let (source, target) ← Text.cutFirst ':' cs
  let (moving, target) :=
    match target with
    | '=' :: t => (false, t)
    | t => (true, t)
  let target ← (Text.pieces '+' target).mapM Text.hexNumber?
  match Text.cutFirst '~' source with
  | some (a, b) => return ⟨← Text.hexNumber? a, ← Text.hexNumber? b, 2, moving, target⟩
  | none =>
    let (a, b) ← Text.codeRange? source
    return ⟨a, b, 1, moving, target⟩

/-- What the rule says of a code point. -/
def MappingRule.image? (r : MappingRule) (n : Nat) : Option (List Nat) :=
  if r.first ≤ n ∧ n ≤ r.last ∧ (n - r.first) % r.step = 0 then
    some (if r.moving then r.target.map (· + (n - r.first)) else r.target)
  else none

/-- The rules of the table. -/
def mappingRules : List MappingRule := (Text.words mappingText).filterMap MappingRule.ofChars?

/-- A code point stands for itself. -/
def isPlain (n : Nat) : Bool := plainRanges.contains n

/-- What a code point stands for, none if it may not stand in a name. -/
def mapped? (n : Nat) : Option (List Nat) :=
  if isPlain n then some [n]
  else if ignoredRanges.contains n then some []
  else mappingRules.findSome? (·.image? n)

/-- The mapped text. -/
def map? (ns : List Nat) : Option (List Nat) := (ns.mapM mapped?).map List.flatten

end Domain
end Host
end EtcdClient
