import EtcdClient.Environment.Basic
import EtcdClient.Text.Alphanumeric
import EtcdClient.Text.Numeral

/-
# Log filters

A filter is a list of directives with commas between them, of which empty ones count for nothing.
A directive is one of

| form | what it selects |
| --- | --- |
| `level` | everything |
| `target`, `target=level` | what one target logs |
| `target[span{field}]=level` | what is logged inside a span |

In the last form the target, the name of the span, the field with its braces and the level with
its equals sign may each be left out. A level is a number from 0 to 5 or one of six words in any
case, and nothing may stand for it after an equals sign. Blanks around a directive are not counted
when the places of its parts are found, but the parts are then cut from the directive with its
blanks, so a level with a blank next to it is refused.

Source: `SPEC_FULL.md` §10.2 on logging, `init_tracing`, and the filters of the library that it
calls.
-/

namespace EtcdClient
namespace Logging

/-- The words for levels. -/
def levelWords : List String := ["error", "warn", "info", "debug", "trace", "off"]

/-- A text is a level. -/
def isLevel (cs : List Char) : Bool :=
  match Text.readNatural 5 cs with
  | .ok _ => true
  | .error _ => levelWords.any fun w => w.toList = cs.map Char.toLower

/-- Where in a directive a reader is; places are counted in bytes. -/
inductive DirectivePart
  | start
  | levelOrTarget
  | span
  | field (start : Nat)
  | fields
  | target
  | level (start : Nat)

namespace DirectivePart

/-- The part behind a character that stands at a place. -/
def next? (p : DirectivePart) (place : Nat) (c : Char) : Option DirectivePart :=
  match p with
  | start =>
    if c = '[' then some span
    else if c = '-' ∨ c = ':' ∨ c = '_' ∨ Text.isAlphanumeric c then some levelOrTarget
    else none
  | levelOrTarget =>
    if c = '=' then some (level (place + 1)) else if c = '[' then some span else some levelOrTarget
  | span =>
    if c = ']' then some target
    else if c = '\x7b' then some (field (place + 1))
    else some span
  | field first =>
    if c = '\x7d' then if first = place then none else some fields else some (field first)
  | fields => if c = ']' then some target else none
  | target => if c = '=' then some (level (place + 1)) else none
  | level first => some (level first)

end DirectivePart

/-- The text from a place on. -/
def dropBytes : Nat → List Char → List Char
  | 0, cs => cs
  | _ + 1, [] => []
  | n + 1, c :: cs => dropBytes (n + 1 - c.utf8Size) cs

/-- The part at the end of a text that begins at a place. -/
def lastPart? (p : DirectivePart) (place : Nat) : List Char → Option DirectivePart
  | [] => some p
  | c :: cs =>
    match p.next? place c with
    | some p => lastPart? p (place + c.utf8Size) cs
    | none => none

/-- A text is a directive. -/
def isDirective (cs : List Char) : Bool :=
  match lastPart? .start 0 (Text.trimChars cs) with
  | some .levelOrTarget => true
  | some .target => true
  | some (.level first) =>
    let level := dropBytes first cs
    level.isEmpty || isLevel level
  | _ => false

/-- A text is a filter. -/
def isFilter (s : String) : Bool :=
  ((Text.pieces ',' s.toList).filter (!·.isEmpty)).all isDirective

/-- Why logging cannot be set up. -/
inductive Fault
  | filter (directive : String)
  | installed
  deriving DecidableEq

/-- The fault in words. -/
def Fault.message : Fault → String
  | .filter directive => "Invalid log filter directive '" ++ directive ++ "'"
  | .installed => "Failed to install the global tracing subscriber"

/-- The variable that replaces the level. -/
def levelVariable : String := "RUST_LOG"

/-- The filter that counts: the variable if it is one, or else the level. -/
def filter (level : String) (e : Environment) : Except Fault String :=
  match (e.get? levelVariable).filter isFilter with
  | some s => .ok s
  | none => if isFilter level then .ok level else .error (.filter level)

/-- Sets up logging in a process that may have set it up before. -/
def setUp (installed : Bool) (level : String) (e : Environment) : Except Fault String := do
  let s ← filter level e
  if installed then .error .installed else .ok s

end Logging
end EtcdClient
