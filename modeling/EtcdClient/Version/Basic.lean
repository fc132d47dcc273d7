import EtcdClient.Bytes
import EtcdClient.Text.Cut
import EtcdClient.Text.Numeral

/-
# Server versions

A version is three numbers and perhaps a pre-release. Versions are ordered by their numbers, then
a pre-release comes before its release, then the dot-separated identifiers of the pre-releases
decide from the left:

| identifiers | order |
| --- | --- |
| both numbers of 64 bits | by value |
| one of them | the number first |
| none of them | bytewise |
| one list ends | the shorter list first |

Versions that differ in text can stand equal in this order, `1.0.0-01` and `1.0.0-1` for instance.

Source: `SPEC_FULL.md` §10.7, `EtcdVersion` with its order, `compare_pre_release` and its spelling.
-/

namespace EtcdClient

/-- A version of a server. -/
structure Version where
  major : UInt64
  minor : UInt64
  patch : UInt64
  preRelease : Option String := none
  deriving DecidableEq

namespace Version

/-- `major.minor.patch`, and the pre-release after a hyphen. -/
def text (v : Version) : String :=
  let numbers := Text.decimalText v.major.toNat ++ "." ++ Text.decimalText v.minor.toNat ++ "." ++
    Text.decimalText v.patch.toNat
  match v.preRelease with
  | none => numbers
  | some p => numbers ++ "-" ++ p

/-- One dot-separated part of a pre-release. -/
inductive Identifier
  | number (n : Nat)
  | word (b : Bytes)
  deriving DecidableEq

/-- A part is a number if it reads as one of 64 bits. -/
def Identifier.ofChars (cs : List Char) : Identifier :=
  match Text.readNatural (UInt64.size - 1) cs with
  | .ok n => .number n
  | .error _ => .word (utf8 (String.ofList cs))

/-- Numbers by value, before words in bytewise order. -/
def Identifier.compare : Identifier → Identifier → Ordering
  | .number m, .number n => Ord.compare m n
  | .number _, .word _ => .lt
  | .word _, .number _ => .gt
  | .word a, .word b => Ord.compare a b

instance : Ord Identifier := ⟨Identifier.compare⟩

/-- The identifiers of a pre-release. -/
def identifiers (p : String) : List Identifier :=
  (Text.pieces '.' p.toList).map Identifier.ofChars

/-- Pre-releases in the order of their identifiers, no pre-release after all of them. -/
def comparePreRelease : Option String → Option String → Ordering
  | none, none => .eq
  | none, some _ => .gt
  | some _, none => .lt
  | some p, some q => Ord.compare (identifiers p) (identifiers q)

/-- The order of versions. -/
protected def compare (v w : Version) : Ordering :=
  (Ord.compare v.major w.major).then <|
    (Ord.compare v.minor w.minor).then <|
      (Ord.compare v.patch w.patch).then <|
        comparePreRelease v.preRelease w.preRelease

instance : Ord Version := ⟨Version.compare⟩

/-- `v` stands at or before `w`. -/
def atMost (v w : Version) : Bool := (Ord.compare v w).isLE

/-- The versions in ascending order, those that compare equal in the order given. -/
def sort (vs : List Version) : List Version := vs.mergeSort atMost

end Version
end EtcdClient
