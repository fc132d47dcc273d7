import EtcdClient.Text.Alphanumeric

/-
# The values of a settings file

A value is read character by character. Blanks end it outside quotes, and then only a comment may
follow. A dollar sign outside strong quotes begins a name, which is replaced by its value:

| written | replaced |
| --- | --- |
| `$` and letters and digits | the longest such name |
| `$`, then all between braces | what is between the braces |

The character behind a name without braces stands for itself, whatever it is, but another dollar
sign begins a new name. A backslash outside strong quotes writes one of `\ ' " $`, a space, or by
`n` a line feed.

Source: the reader of values in the library that `load_dotenv` calls.
-/

namespace EtcdClient
namespace Dotenv

/-- What the next character of a value belongs to. -/
inductive Part
  | text
  | escape
  | strong
  /-- A name after a dollar sign, from its end. -/
  | name (cs : List Char)
  /-- A name in braces, from its end. -/
  | braces (cs : List Char)
  /-- Nothing but blanks and a comment may follow. -/
  | ended
  | comment

/-- A value that is being read. -/
structure Scan where
  part : Part := .text
  /-- Between double quotes. -/
  weak : Bool := false
  /-- What was read, from its end. -/
  output : List Char := []

namespace Scan

/-- Takes a character as a part of the value. -/
def push (s : Scan) (c : Char) : Scan := { s with output := c :: s.output }

/-- Puts in the value of a name that is given from its end. -/
def substitute (s : Scan) (value : String → String) (name : List Char) : Scan :=
  { s with output := (value (String.ofList name.reverse)).toList.reverse ++ s.output }

/-- The character that an escape writes. -/
def escaped? (c : Char) : Option Char :=
  if c = '\\' ∨ c = '\x27' ∨ c = '\x22' ∨ c = '$' ∨ c = ' ' then some c
  else if c = 'n' then some '\n'
  else none

/-- A character outside strong quotes and names. -/
def read (s : Scan) (c : Char) : Scan :=
  if c = '$' then { s with part := .name [] }
  else if c = '\\' then { s with part := .escape }
  else if c = '\x22' then { s with weak := !s.weak }
  else if s.weak then s.push c
  else if c = '\x27' then { s with part := .strong }
  else if c = ' ' ∨ c = '\t' then { s with part := .ended }
  else s.push c

/-- Takes one character; `value` gives the values of names. -/
def step? (value : String → String) (s : Scan) (c : Char) : Option Scan :=
  match s.part with
  | .text => some (s.read c)
  | .escape => (escaped? c).map fun c => { s with part := .text }.push c
  | .strong => some (if c = '\x27' then { s with part := .text } else s.push c)
  | .name cs =>
    if Text.isAlphanumeric c then some { s with part := .name (c :: cs) }
    else if c = '\x7b' ∧ cs.isEmpty then some { s with part := .braces [] }
    else
      let s := { s with part := .text }.substitute value cs
      some (if c = '$' then { s with part := .name [] } else s.push c)
  | .braces cs =>
    if c = '\x7d' then some ({ s with part := .text }.substitute value cs)
    else some { s with part := .braces (c :: cs) }
  | .ended =>
    if c = ' ' ∨ c = '\t' then some s
    else if c = '#' then some { s with part := .comment }
    else none
  | .comment => some s

/-- The value at the end, none inside quotes or braces. -/
def finish? (value : String → String) (s : Scan) : Option String :=
  let result (s : Scan) : Option String :=
    if s.weak then none else some (String.ofList s.output.reverse)
  match s.part with
  | .strong => none
  | .braces _ => none
  | .name cs => result (s.substitute value cs)
  | _ => result s

end Scan

/-- The value that a text writes. -/
def value? (value : String → String) (cs : List Char) : Option String :=
  (cs.foldlM (Scan.step? value) {}).bind (Scan.finish? value)

end Dotenv
end EtcdClient
