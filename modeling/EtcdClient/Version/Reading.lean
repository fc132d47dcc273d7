import EtcdClient.Text.Blank
import EtcdClient.Version.Basic

/-
# Reading versions

A version is written `D.D.D` or `D.D.D-P`: three numbers of 64 bits in ASCII digits, and a
pre-release `P` that is not empty and begins after the first hyphen. Blanks around it, letters `v`
in front of it and all from the first plus sign on (build metadata, which never takes part in the
order) are passed over.

Source: `SPEC_FULL.md` §10.7, the reading of an `EtcdVersion` from the text that a member reports.
-/

namespace EtcdClient

/-- Why a text is no version. -/
inductive VersionFault
  | malformed
  | emptyPreRelease
  deriving DecidableEq

namespace Version

/-- The part of a text that holds the numbers and the pre-release. -/
def significant (cs : List Char) : List Char :=
  let body := (Text.trimChars cs).dropWhile (· == 'v')
  -- Build metadata goes before the hyphen is looked for, since it may have hyphens of its own.
  match Text.cutFirst '+' body with
  | some (front, _) => front
  | none => body

/-- The three numbers. -/
def readNumbers (cs : List Char) (preRelease : Option String) : Except VersionFault Version :=
  match Text.pieces '.' cs with
  | [a, b, c] =>
    match Text.readUInt64 a, Text.readUInt64 b, Text.readUInt64 c with
    | .ok major, .ok minor, .ok patch => .ok ⟨major, minor, patch, preRelease⟩
    | _, _, _ => .error .malformed
  | _ => .error .malformed

/-- The version that a text writes. -/
def read (s : String) : Except VersionFault Version :=
  let body := significant s.toList
  match Text.cutFirst '-' body with
  -- A missing pre-release is reported before the numbers are looked at.
  | some (_, []) => .error .emptyPreRelease
  | some (numbers, pre) => readNumbers numbers (some (String.ofList pre))
  | none => readNumbers body none

end Version
end EtcdClient
