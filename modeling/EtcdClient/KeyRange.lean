import EtcdClient.Bytes

/-
# Key ranges

A request addresses keys by a start key and a reach: the key alone, all keys that begin with it,
all keys from it onwards, or all keys before a stop. On the wire a range is a pair of a key and a
range end, which a server reads like this:

| range end | keys selected |
| --- | --- |
| empty | the key itself |
| the single byte 0 | every key at or after the key |
| any other `e` | every key at or after the key and before `e` |

Keys are not empty. `KeyRange.Selects` says which keys a range means and `WireRange.Selects` which
keys a server picks; `KeyRange.resolve` writes the one as the other.

Source: `SPEC_FULL.md` §6 and §10.6; `prefix_end_of`, `FROM_KEY`, `ALL_KEYS` and `KeyRange` with
`resolve`. How a server reads a pair is said in `rpc.proto` beside `range_end`.
-/

namespace EtcdClient

/-- How far a request reaches beyond its start key. -/
inductive KeyRange
  /-- Only the key itself. -/
  | single
  /-- Every key that begins with the key. -/
  | startingWith
  /-- Every key at or after the key. -/
  | fromKey
  /-- Every key at or after the key and before `stop`. -/
  | before (stop : Bytes)
  deriving DecidableEq

/-- A range as a request carries it. -/
structure WireRange where
  key : Bytes
  rangeEnd : Bytes
  deriving DecidableEq

/-- The range end that selects every key at or after the start key. -/
def endOfKeys : Bytes := [0]

/-- The start key that comes before all others, since keys are not empty. -/
def firstKey : Bytes := [0]

/-- The least byte string above all that begin with `p`: the trailing bytes 255 are dropped and
the last byte left is incremented. Nothing is above all byte strings that begin with bytes 255
alone, and then the result is empty. -/
def prefixEnd : Bytes → Bytes
  | [] => []
  | b :: bs =>
    match prefixEnd bs with
    -- All that follows is dropped, so it is this byte that is incremented or dropped in its turn.
    | [] => if b = 255 then [] else [b + 1]
    | c :: cs => b :: c :: cs

/-- The pair that a request carries for `range` at `key`. An empty key is replaced where it
would stand for all keys. -/
def KeyRange.resolve (range : KeyRange) (key : Bytes) : WireRange :=
  match range with
  | .single => ⟨key, []⟩
  | .startingWith =>
    if key = [] then ⟨firstKey, endOfKeys⟩
    -- Such a prefix has no bound above it, and the keys that begin with it are the last of all.
    else if prefixEnd key = [] then ⟨key, endOfKeys⟩
    else ⟨key, prefixEnd key⟩
  | .fromKey => if key = [] then ⟨firstKey, endOfKeys⟩ else ⟨key, endOfKeys⟩
  -- The stop goes out as it is, also the two stops that a server does not read as stops.
  | .before stop => ⟨key, stop⟩

/-- The keys that `range` at `key` means. -/
def KeyRange.Selects (range : KeyRange) (key k : Bytes) : Prop :=
  k ≠ [] ∧
    match range with
    | .single => k = key
    | .startingWith => key <+: k
    | .fromKey => key ≤ k
    | .before stop => key ≤ k ∧ k < stop

/-- The keys that a server picks for a pair. -/
def WireRange.Selects (w : WireRange) (k : Bytes) : Prop :=
  k ≠ [] ∧
    if w.rangeEnd = [] then k = w.key
    else if w.rangeEnd = endOfKeys then w.key ≤ k
    else w.key ≤ k ∧ k < w.rangeEnd

example : prefixEnd [97, 255] = [98] := by decide
example : prefixEnd [255, 255] = [] := by decide
example : KeyRange.startingWith.resolve [] = ⟨[0], [0]⟩ := by decide

end EtcdClient
