import EtcdClient.Error
import EtcdClient.Bytes

/-
# Tokens and metadata

Beside its message a request carries metadata, a list of names with values. After authentication
every request carries the token of the user there, exactly once and under one name; requests of a
client without a token keep their metadata as it is.

Source: `SPEC_FULL.md` §10.3 on the bearer token, `TokenInterceptor`.
-/

namespace EtcdClient

/-- Names, in lower case, with values. -/
abbrev Metadata := List (String × Bytes)

/-- The metadata with texts under names in any case. -/
def Metadata.ofTexts (pairs : List (String × String)) : Metadata :=
  pairs.map fun (name, value) => (name.map Char.toLower, utf8 value)

/-- A byte that may stand in a value: a tab, or anything but a control character. -/
def isMetadataByte (b : UInt8) : Bool := b == 9 || (32 ≤ b && b != 127)

/-- A token that can be sent. -/
structure Token where
  text : String
  sendable : (utf8 text).all isMetadataByte = true

namespace Token

/-- The token with a text, refused if a byte of it may not stand in metadata. -/
def make (s : String) : Result Token :=
  if h : (utf8 s).all isMetadataByte = true then .ok ⟨s, h⟩
  else .error (.invalidMetadata .token)

/-- The name under which a token is sent. -/
def name : String := "token"

end Token

/-- The metadata with the token in place of all tokens before it. -/
def Metadata.attach (m : Metadata) : Option Token → Metadata
  | some t => m.filter (·.1 ≠ Token.name) ++ [(Token.name, utf8 t.text)]
  | none => m

/-- The values under a name. -/
def Metadata.values (m : Metadata) (name : String) : List Bytes :=
  (m.filter (·.1 = name)).map (·.2)

end EtcdClient
