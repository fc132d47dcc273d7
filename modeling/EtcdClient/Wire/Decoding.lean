import EtcdClient.Wire.Schema

/-
# Decoding replies

Bytes are first cut into raw fields, then a schema says what they mean. A field that the schema
does not have is passed over, one that it has must have the kind of its type. Of several fields
with one number

| arity | counts |
| --- | --- |
| single number, bytes or text | the last |
| single message | all, as if their fields stood in one message |
| repeated | all, one after the other |
| choice | the last member, with all its fields since another member stood there |

Messages may stand in each other up to `nestingLimit` deep.

Source: the replies of the services in `rpc.proto`.
-/

namespace EtcdClient

/-- The content of a field whose meaning is not known. -/
inductive RawContent
  | number (n : UInt64)
  | delimited (b : Bytes)
  /-- Four or eight bytes. -/
  | fixed
  /-- Fields between a start and an end, so many levels of them. -/
  | group (height : Nat)

/-- A field whose meaning is not known. -/
structure RawField where
  number : Nat
  content : RawContent

namespace RawField

/-- Takes a number of at most `limit` groups of seven bits. The tenth group has one bit. -/
def takeVarint : Nat → Bytes → Option (Nat × Bytes)
  | 0, _ => none
  | _ + 1, [] => none
  | limit + 1, b :: bs =>
    if b < 128 then if limit = 0 ∧ 2 ≤ b then none else some (b.toNat, bs)
    else (takeVarint limit bs).map fun (n, rest) => (b.toNat - 128 + 128 * n, rest)

/-- Takes a number of 64 bits. -/
def takeNumber (b : Bytes) : Option (Nat × Bytes) := takeVarint 10 b

/-- Takes `n` bytes. -/
def takeBytes (n : Nat) (b : Bytes) : Option (Bytes × Bytes) :=
  if n ≤ b.length then some (b.take n, b.drop n) else none

/-- Takes the key of a field: its number and the kind of its content. -/
def takeKey (b : Bytes) : Option (Nat × Nat × Bytes) := do
  let (key, rest) ← takeNumber b
  if key < UInt32.size ∧ 8 ≤ key then return (key / 8, key % 8, rest) else none

mutual

/-- Takes the content of a field of a kind, other than the end of a group. -/
def takeContent : Nat → Nat → Nat → Bytes → Option (RawContent × Bytes)
  | 0, _, _, _ => none
  | fuel + 1, number, kind, b =>
    match kind with
    | 0 => (takeNumber b).map fun (n, rest) => (.number (UInt64.ofNat n), rest)
    | 1 => (takeBytes 8 b).map fun (_, rest) => (.fixed, rest)
    | 2 => do
      let (n, rest) ← takeNumber b
      let (content, rest) ← takeBytes n rest
      return (.delimited content, rest)
    | 3 => (takeGroup fuel number b).map fun (height, rest) => (.group height, rest)
    | 5 => (takeBytes 4 b).map fun (_, rest) => (.fixed, rest)
    | _ => none

/-- Takes fields up to the end of the group with a number, and says how many levels they have. -/
def takeGroup : Nat → Nat → Bytes → Option (Nat × Bytes)
  | 0, _, _ => none
  | fuel + 1, number, b => do
    let (inner, kind, rest) ← takeKey b
    if kind = 4 then
      -- A group ends with its own number; the end of another one is no field.
      if inner = number then return (1, rest) else none
    else
      let (content, rest) ← takeContent fuel inner kind rest
      let (height, rest) ← takeGroup fuel number rest
      match content with
      | .group h => return (max (h + 1) height, rest)
      | _ => return (max 2 height, rest)

end

/-- Cuts bytes into at most `fuel` fields. -/
def cut : Nat → Bytes → Option (List RawField)
  | _, [] => some []
  | 0, _ => none
  | fuel + 1, b => do
    let (number, kind, rest) ← takeKey b
    let (content, rest) ← takeContent fuel number kind rest
    let fields ← cut fuel rest
    return ⟨number, content⟩ :: fields

/-- The fields of a message. Each step takes at least one byte. -/
def all? (b : Bytes) : Option (List RawField) := cut (b.length + 1) b

/-- How many levels of messages a field of no meaning takes up. -/
def height (f : RawField) : Nat :=
  match f.content with
  | .group h => h
  | _ => 1

/-- The value of a field whose type is no message. -/
def scalar? (type : FieldType) (f : RawField) : Option Value :=
  match type, f.content with
  | .int64, .number n => some (.int64 n.toInt64)
  | .uint64, .number n => some (.uint64 n)
  | .enum, .number n => some (.enum n.toInt64.toInt32)
  | .bool, .number n => some (.bool (n != 0))
  | .bytes, .delimited b => some (.bytes b)
  | .text, .delimited b => (ofUtf8? b).map .text
  | _, _ => none

/-- The fields inside a field that holds a message. -/
def inner? (f : RawField) : Option (List RawField) :=
  match f.content with
  | .delimited b => all? b
  | _ => none

/-- Neighbours of one number together. -/
def runs : List RawField → List (Nat × List RawField)
  | [] => []
  | f :: fs =>
    match runs fs with
    | (n, run) :: rest =>
      if f.number = n then (n, f :: run) :: rest else (f.number, [f]) :: (n, run) :: rest
    | [] => [(f.number, [f])]

end RawField

namespace Schema

/-- The message in fields of one number, read by `nested`. -/
def joined? (nested : Schema → List RawField → Option Message) (s : Schema) (fs : List RawField) :
    Option Message := do
  let inner ← fs.mapM RawField.inner?
  nested s inner.flatten

/-- The value that fields of one number and one type have together. -/
def single? (nested : Schema → List RawField → Option Message) (type : FieldType)
    (fs : List RawField) : Option Value :=
  match type with
  | .message s => (joined? nested s fs).map .message
  | type => (fs.mapM (RawField.scalar? type)).bind List.getLast?

/-- The part of a message that one field of the schema gives. -/
def field? (nested : Schema → List RawField → Option Message) (f : FieldSchema)
    (raw : List RawField) : Option Message :=
  let mine := raw.filter (·.number = f.number)
  match f.arity with
  | .single =>
    if mine.isEmpty then some [] else (single? nested f.type mine).map (Field.plain f.number f.name)
  | .repeated =>
    (mine.mapM fun r => single? nested f.type [r]).map fun vs =>
      Field.plain f.number f.name (.list vs)
  | .choice => some []

/-- The member of the choice that was set last, after all of them are read. -/
def choice? (nested : Schema → List RawField → Option Message) (fields : List FieldSchema)
    (raw : List RawField) : Option Message := do
  let members := fields.filter (·.arity = .choice)
  let runs := RawField.runs (raw.filter fun r => members.any (·.number = r.number))
  let read ← runs.mapM fun (n, run) => do
    let f ← members.find? (·.number = n)
    let v ← single? nested f.type run
    return Field.chosen f.number f.name v
  return read.getLast?.getD []

/-- The message that raw fields make; `depth` levels of messages may stand in it. -/
def assemble? (nested : Schema → List RawField → Option Message) (depth : Nat) (s : Schema)
    (raw : List RawField) : Option Message :=
  -- What the schema does not know is passed over, but it must not be nested too deep.
  if raw.all fun r => s.fields.any (·.number = r.number) || r.height ≤ depth then do
    let plain ← s.fields.mapM fun f => field? nested f raw
    let chosen ← choice? nested s.fields raw
    return plain.flatten ++ chosen
  else none

/-- The message that raw fields make. -/
def build? : Nat → Schema → List RawField → Option Message
  | 0 => assemble? (fun _ _ => none) 0
  | depth + 1 => assemble? (build? depth) (depth + 1)

/-- So many levels of messages may stand in a message. -/
def nestingLimit : Nat := 100

/-- The message of a schema that bytes encode. -/
def decode? (s : Schema) (b : Bytes) : Option Message := do
  let raw ← RawField.all? b
  build? nestingLimit s raw

end Schema
end EtcdClient
