import EtcdClient.Host.Domain.JoiningTable
import EtcdClient.Host.Domain.Normal

/-
# Joiners

The two joiners may stand in a label only where they can change how it looks: behind a virama, and
the non-joiner also between a letter that joins to its successor and one that joins to its
predecessor, letters that joining passes over apart.
-/

namespace EtcdClient
namespace Host
namespace Domain

/-- The non-joiner. -/
def nonJoiner : Nat := 0x200C

/-- The joiner. -/
def joiner : Nat := 0x200D

/-- A mark that suppresses the vowel of its consonant. -/
def isVirama (n : Nat) : Bool := combiningClass n = 9

/-- The first character that joining does not pass over has the property. -/
def firstJoins (r : Text.CodeRanges) (ns : List Nat) : Bool :=
  (ns.dropWhile transparentRanges.contains).head?.any r.contains

/-- All joiners of a text may stand there; `before` is what precedes it, from its end. -/
def joinersFit (before : List Nat) : List Nat → Bool
  | [] => true
  | n :: ns =>
    (n ≠ nonJoiner && n ≠ joiner || before.head?.any isVirama ||
      n = nonJoiner && firstJoins joinsNextRanges before && firstJoins joinsPreviousRanges ns) &&
    joinersFit (n :: before) ns

end Domain
end Host
end EtcdClient
