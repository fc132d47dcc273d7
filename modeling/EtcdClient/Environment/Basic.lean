import EtcdClient.Text.Blank
import EtcdClient.Text.Cut

/-
# Environments

The variables that a process was started with, in the order in which they were set. A value can
have bytes that are no text; such a variable is set but cannot be read. Readers trim what they
read and take a blank value for none.

Source: `SPEC_FULL.md` §10.2 on configuration, `var` and `list_var`.
-/

namespace EtcdClient

/-- The value of a variable. -/
inductive Variable
  | text (s : String)
  | unreadable
  deriving DecidableEq

/-- The variables that are set. -/
structure Environment where
  bindings : List (String × Variable) := []
  deriving DecidableEq

namespace Environment

/-- The text of a variable that is set and can be read. -/
def get? (e : Environment) (name : String) : Option String :=
  match e.bindings.lookup name with
  | some (.text s) => some s
  | _ => none

/-- Sets a variable. -/
def set (e : Environment) (name value : String) : Environment :=
  ⟨(name, .text value) :: e.bindings.filter (·.1 ≠ name)⟩

/-- The trimmed text of a variable, none if it is blank or cannot be read. -/
def value? (e : Environment) (name : String) : Option String :=
  ((e.get? name).map Text.trim).filter (· ≠ "")

/-- The parts of a list with commas, each trimmed, without the blank ones. -/
def items (s : String) : List String :=
  ((Text.pieces ',' s.toList).map fun cs => String.ofList (Text.trimChars cs)).filter (· ≠ "")

/-- The items of a variable that holds a list. -/
def list (e : Environment) (name : String) : List String :=
  match e.value? name with
  | some s => items s
  | none => []

end Environment
end EtcdClient
