import EtcdClient.Text.CodeRanges

/-
# JSON documents

Settings are written as JSON: a value of one of six kinds, with blanks between its parts and
nothing behind it. The reader is strict: no comma at the end of a list, no control character in a
string, no number with a leading zero. Only what settings need is kept apart:

| part | kept as |
| --- | --- |
| a number in digits alone | its value |
| any other number | no value |
| a string | its text, or nothing if an escape writes half of a pair |
| an object | its members in order, equal keys included |

Source: `SPEC_FULL.md` §10.2, by which `ClientConfig` and `LoggingOptions` are read from JSON.
-/

namespace EtcdClient

/-- A value of a JSON document. -/
inductive Document
  | null
  | bool (b : Bool)
  | natural (n : Nat)
  | number
  | string (s : Option String)
  | array (items : List Document)
  | object (members : List (Option String × Document))

namespace Document

/-- Drops the blanks that may stand between parts. -/
def skip (cs : List Char) : List Char :=
  cs.dropWhile fun c => c = ' ' || c = '\n' || c = '\t' || c = '\r'

/-- The character that a short escape stands for. -/
def shortEscape? (c : Char) : Option Char :=
  if c = '\x22' ∨ c = '\\' ∨ c = '/' then some c
  else if c = 'b' then some '\x08'
  else if c = 'f' then some '\x0c'
  else if c = 'n' then some '\n'
  else if c = 'r' then some '\r'
  else if c = 't' then some '\t'
  else none

/-- The code units up to the closing quote, and what is behind it. An escape by number stands for
one unit, which may be half of a pair. -/
def units? : List Char → Option (List Nat × List Char)
  | [] => none
  | '\\' :: 'u' :: a :: b :: c :: d :: cs => do
    let unit ← Text.hexNumber? [a, b, c, d]
    let (units, rest) ← units? cs
    return (unit :: units, rest)
  | '\\' :: c :: cs => do
    let c ← shortEscape? c
    let (units, rest) ← units? cs
    return (c.toNat :: units, rest)
  | c :: cs =>
    if c = '\x22' then some ([], cs)
    else if c < ' ' ∨ c = '\\' then none
    else do
      let (units, rest) ← units? cs
      return (c.toNat :: units, rest)

/-- Joins the halves of pairs; none if a half stands alone. -/
def joinPairs? : List Nat → Option (List Char)
  | [] => some []
  | high :: low :: ns =>
    -- A unit of the first half is only a character together with one of the second half.
    if 0xD800 ≤ high ∧ high < 0xDC00 then
      if 0xDC00 ≤ low ∧ low < 0xE000 then
        (joinPairs? ns).map (Char.ofNat (0x10000 + (high - 0xD800) * 0x400 + (low - 0xDC00)) :: ·)
      else none
    else if 0xDC00 ≤ high ∧ high < 0xE000 then none
    else (joinPairs? (low :: ns)).map (Char.ofNat high :: ·)
  | [n] => if 0xD800 ≤ n ∧ n < 0xE000 then none else some [Char.ofNat n]

/-- A string behind its opening quote. -/
def string? (cs : List Char) : Option (Option String × List Char) :=
  (units? cs).map fun (units, rest) => ((joinPairs? units).map String.ofList, rest)

/-- A run of digits, at least one. -/
def digits? (cs : List Char) : Option (List Char × List Char) :=
  match cs.span Char.isDigit with
  | ([], _) => none
  | parts => some parts

/-- The whole part of a number. -/
def whole? : List Char → Option (List Char × List Char)
  | '0' :: cs => some (['0'], cs)
  | cs => digits? cs

/-- Drops the fraction of a number, if there is one, and says whether there was. -/
def fraction? : List Char → Option (Bool × List Char)
  | '.' :: cs => (digits? cs).map fun (_, rest) => (true, rest)
  | cs => some (false, cs)

/-- Drops the exponent of a number, if there is one, and says whether there was. -/
def exponent? : List Char → Option (Bool × List Char)
  | c :: cs =>
    if c = 'e' ∨ c = 'E' then
      (digits? (match cs with
        | '+' :: rest => rest
        | '-' :: rest => rest
        | rest => rest)).map fun (_, rest) => (true, rest)
    else some (false, c :: cs)
  | [] => some (false, [])

/-- A number without its sign. -/
def unsigned? (cs : List Char) : Option (Document × List Char) := do
  let (whole, rest) ← whole? cs
  let (broken, rest) ← fraction? rest
  let (scaled, rest) ← exponent? rest
  if broken || scaled then return (number, rest)
  else return (natural (whole.foldl (fun n c => 10 * n + (c.toNat - 48)) 0), rest)

/-- A number. -/
def number? : List Char → Option (Document × List Char)
  | '-' :: cs => (unsigned? cs).map fun (_, rest) => (number, rest)
  | cs => unsigned? cs

/-- A word that stands for a value. -/
def word? (cs : List Char) : Option (Document × List Char) :=
  if "null".toList.isPrefixOf cs then some (null, cs.drop 4)
  else if "true".toList.isPrefixOf cs then some (bool true, cs.drop 4)
  else if "false".toList.isPrefixOf cs then some (bool false, cs.drop 5)
  else none

mutual

/-- A value at the beginning of a text. -/
def value? : Nat → List Char → Option (Document × List Char)
  | 0, _ => none
  | fuel + 1, cs =>
    match skip cs with
    | '[' :: cs =>
      match skip cs with
      | ']' :: rest => some (array [], rest)
      | cs => (items? fuel cs).map fun (vs, rest) => (array vs, rest)
    | '\x7b' :: cs =>
      match skip cs with
      | '\x7d' :: rest => some (object [], rest)
      | cs => (members? fuel cs).map fun (ms, rest) => (object ms, rest)
    | '\x22' :: cs => (string? cs).map fun (s, rest) => (string s, rest)
    | c :: cs => if c = '-' ∨ c.isDigit then number? (c :: cs) else word? (c :: cs)
    | [] => none

/-- The values of a list that is not empty, and its end. -/
def items? : Nat → List Char → Option (List Document × List Char)
  | 0, _ => none
  | fuel + 1, cs => do
    let (v, rest) ← value? fuel cs
    match skip rest with
    | ',' :: rest => do
      let (vs, rest) ← items? fuel rest
      return (v :: vs, rest)
    | ']' :: rest => return ([v], rest)
    | _ => none

/-- The members of an object that is not empty, and its end. -/
def members? : Nat → List Char → Option (List (Option String × Document) × List Char)
  | 0, _ => none
  | fuel + 1, cs =>
    match skip cs with
    | '\x22' :: cs => do
      let (key, rest) ← string? cs
      match skip rest with
      | ':' :: rest => do
        let (v, rest) ← value? fuel rest
        match skip rest with
        | ',' :: rest => do
          let (ms, rest) ← members? fuel rest
          return ((key, v) :: ms, rest)
        | '\x7d' :: rest => return ([(key, v)], rest)
        | _ => none
      | _ => none
    | _ => none

end

/-- The document that a text is. Each level and each element takes a character at least. -/
def ofText? (s : String) : Option Document :=
  match value? (2 * s.length + 2) s.toList with
  | some (d, rest) => if (skip rest).isEmpty then some d else none
  | none => none

/-- The text that a value is. -/
def text? : Document → Option String
  | string s => s
  | _ => none

/-- The truth value that a value is. -/
def bool? : Document → Option Bool
  | bool b => some b
  | _ => none

/-- The number of 64 bits that a value is. -/
def uint64? : Document → Option UInt64
  | natural n => if n < UInt64.size then some (UInt64.ofNat n) else none
  | _ => none

/-- What a list holds. -/
def list? {α : Type} (item? : Document → Option α) : Document → Option (List α)
  | array vs => vs.mapM item?
  | _ => none

/-- Nothing for null. -/
def optional? {α : Type} (some? : Document → Option α) : Document → Option (Option α)
  | null => some none
  | v => (some? v).map some

/-- The values of fields with given names, in that order: of an object the members with these
names, each at most once, of a list its items, no more than there are names. -/
def fields? (names : List String) : Document → Option (List (Option Document))
  | object members =>
    if members.all (·.1.isSome) ∧
        -- A known name that is given twice is refused; names of no field are passed over.
        names.all fun name => (members.filter (·.1 = some name)).length ≤ 1 then
      some (names.map fun name => (members.find? (·.1 = some name)).map (·.2))
    else none
  | array items =>
    if items.length ≤ names.length then
      some (items.map some ++ List.replicate (names.length - items.length) none)
    else none
  | _ => none

/-- A field that may be missing. -/
def field? {α : Type} (read? : Document → Option α) (default : α) : Option Document → Option α
  | some v => read? v
  | none => some default

end Document
end EtcdClient
