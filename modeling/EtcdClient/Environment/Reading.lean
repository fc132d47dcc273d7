import EtcdClient.Environment.Basic
import EtcdClient.Error

/-
# Reading variables as values of a type

A variable that is set and not blank must read as a whole as a value of the type that is asked
for. A fault names the variable and its trimmed text.

Source: `SPEC_FULL.md` §10.2 on configuration, `parse_var` with its `EnvError`.
-/

namespace EtcdClient

/-- The types that a variable can be read as. -/
inductive VariableType
  /-- A number from 0 to `max`. -/
  | unsigned (max : Nat)
  /-- A number from `-(max + 1)` to `max`. -/
  | signed (max : Nat)
  | truth
  | character
  deriving DecidableEq

/-- A value of such a type. -/
inductive TypedValue
  | number (n : Int)
  | truth (b : Bool)
  | character (c : Char)
  deriving DecidableEq

/-- A value in words. -/
def TypedValue.text : TypedValue → String
  | .number n => Text.signedText n
  | .truth true => "true"
  | .truth false => "false"
  | .character c => c.toString

/-- Reads a text as a value of a type. -/
def VariableType.read (type : VariableType) (s : String) : Except ReadFault TypedValue :=
  match type with
  | .unsigned max =>
    match Text.readNatural max s.toList with
    | .ok n => .ok (.number n)
    | .error fault => .error (.numeral fault)
  | .signed max =>
    match Text.readInteger max s.toList with
    | .ok n => .ok (.number n)
    | .error fault => .error (.numeral fault)
  | .truth =>
    if s = "true" then .ok (.truth true)
    else if s = "false" then .ok (.truth false)
    else .error .noTruthValue
  | .character =>
    match s.toList with
    | [] => .error .noCharacter
    | [c] => .ok (.character c)
    | _ => .error .manyCharacters

namespace Environment

/-- Reads a variable with a reader of texts; none if it has no value. -/
def readWith {α : Type} (e : Environment) (name : String)
    (read : String → Except ReadFault α) : Except VariableFault (Option α) :=
  match e.value? name with
  | none => .ok none
  | some value =>
    match read value with
    | .ok a => .ok (some a)
    | .error fault => .error ⟨name, value, fault⟩

/-- Reads a variable as a value of a type. -/
def readAs (e : Environment) (name : String) (type : VariableType) :
    Except VariableFault (Option TypedValue) :=
  e.readWith name type.read

/-- Reads a variable as a number of 64 bits. -/
def readUInt64 (e : Environment) (name : String) : Except VariableFault (Option UInt64) :=
  e.readWith name fun s => (Text.readUInt64 s.toList).mapError .numeral

end Environment
end EtcdClient
