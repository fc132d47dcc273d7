import EtcdClient.Environment.Basic
import EtcdClient.Environment.Dotenv.Line
import EtcdClient.Environment.Dotenv.Value

/-
# Settings files

A file named `.env` gives values to variables that are not set. It is looked for in the working
directory and then in each directory above. Each line is `NAME=value`, perhaps behind the word
`export`, or empty, or a comment. The lines take effect one after the other up to the first bad
one. In a value a name is replaced by the text of the variable, if it can be read, and otherwise
by what an earlier line of the file gave.

Source: `SPEC_FULL.md` §10.2, `load_dotenv`, and the library that it calls. The loader is written
out for files that are text and for values without the null character, which no variable of a
process can hold; what is said of every configuration takes the loader as a parameter
(`Config.ofLoaded`).
-/

namespace EtcdClient
namespace Dotenv

/-- What one line says. -/
structure Assignment where
  name : String
  value : String
  deriving DecidableEq

/-- The name at the beginning of a text: letters, digits, underscores and points, the first one a
letter or an underscore. -/
def name? : List Char → Option (List Char × List Char)
  | [] => none
  | c :: cs =>
    if c.isAlpha ∨ c = '_' then
      some ((c :: cs).span fun c => c.isAlphanum || c = '_' || c = '.')
    else none

/-- The text behind an equals sign, blanks in front of both dropped. -/
def afterEquals? (cs : List Char) : Option (List Char) :=
  match cs.dropWhile Text.isBlank with
  | '=' :: rest => some (rest.dropWhile Text.isBlank)
  | _ => none

/-- The name and the text of the value in a line. The word `export` is a name only if an equals
sign follows. -/
def divide? (cs : List Char) : Option (String × List Char) := do
  let (name, rest) ← name? cs
  match afterEquals? rest with
  | some value => return (String.ofList name, value)
  | none =>
    if name = "export".toList then
      let (name, rest) ← name? (rest.dropWhile Text.isBlank)
      return (String.ofList name, ← afterEquals? rest)
    else none

/-- Reads one line: nothing, an assignment, or no reading at all. -/
def readLine? (value : String → String) (line : List Char) : Option (Option Assignment) :=
  match (Text.dropTrailing Text.isBlank line).dropWhile Text.isBlank with
  | [] => some none
  | '#' :: _ => some none
  | cs => do
    let (name, text) ← divide? cs
    match text with
    | [] => return some ⟨name, ""⟩
    | '#' :: _ => return some ⟨name, ""⟩
    | text => return some ⟨name, ← value? value text⟩

/-- The value of a name inside a file: that of the environment, or else the one given by the
latest of the earlier lines. -/
def lookup (e : Environment) (earlier : List Assignment) (name : String) : String :=
  match e.get? name with
  | some s => s
  | none => ((earlier.find? (·.name = name)).map (·.value)).getD ""

/-- Sets a variable unless it is set and can be read. -/
def assign (e : Environment) (a : Assignment) : Environment :=
  match e.get? a.name with
  | some _ => e
  -- A variable whose bytes are no text counts as unset here and is replaced.
  | none => e.set a.name a.value

/-- The environment after the lines up to the first bad one, and whether there was none. The
earlier assignments stand from the last one to the first. -/
def loadLines (e : Environment) (earlier : List Assignment) :
    List (Option (List Char)) → Environment × Bool
  | [] => (e, true)
  | none :: _ => (e, false)
  | some line :: rest =>
    match readLine? (lookup e earlier) line with
    | none => (e, false)
    | some none => loadLines e earlier rest
    -- The reading of a later line may ask for this one, also where it did not take effect.
    | some (some a) => loadLines (assign e a) (a :: earlier) rest

/-- A directory as the names on the way to it, from the last one to the root. -/
abbrev Directory := List String

/-- Files by their directories and names. -/
abbrev Files := List ((Directory × String) × String)

/-- The name of a settings file. -/
def fileName : String := ".env"

/-- The nearest settings file: its directory and its text. -/
def find (files : Files) : Directory → Option (Directory × String)
  | [] => (files.lookup ([], fileName)).map fun text => ([], text)
  | d :: up =>
    match files.lookup (d :: up, fileName) with
    | some text => some (d :: up, text)
    | none => find files up

/-- The environment after the nearest settings file took effect, and the directory of that file
if all of its lines did. -/
def load (files : Files) (cwd : Directory) (e : Environment) : Environment × Option Directory :=
  match find files cwd with
  | none => (e, none)
  | some (d, text) =>
    match loadLines e [] (lines text) with
    | (e, true) => (e, some d)
    | (e, false) => (e, none)

end Dotenv
end EtcdClient
