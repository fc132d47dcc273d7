import EtcdClient.Error
import EtcdClient.Text.Blank

/-
# Credentials

A user name and a password, exchanged for a token when a client connects. Both are trimmed and
must not be blank, and the password shows in no output.

Source: `SPEC_FULL.md` §10.6, `UsernamePassword` with `new` and `validated`.
-/

namespace EtcdClient

/-- A user name and a password. -/
structure Credentials where
  username : String
  password : String
  deriving DecidableEq

namespace Credentials

/-- A text without its blanks at both ends, refused if nothing is left. -/
def part (what : String) (s : String) : Result String :=
  if Text.isBlankText s then .error (.invalidArgument (.blank what)) else .ok (Text.trim s)

/-- Checked credentials. -/
def make (username password : String) : Result Credentials := do
  let username ← part "username" username
  let password ← part "password" password
  return ⟨username, password⟩

/-- The credentials with their parts checked. -/
def checked (c : Credentials) : Result Credentials := make c.username c.password

/-- The credentials with the password hidden. -/
def text (c : Credentials) : String :=
  "UsernamePassword \x7b username: " ++ Text.quoted c.username ++ ", password: \x22***\x22 \x7d"

end Credentials
end EtcdClient
