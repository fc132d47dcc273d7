import EtcdClient.Text.Numeral

/-
# Durations

Lengths of time, counted in nanoseconds. The text of a duration uses the largest of the units
second, millisecond, microsecond and nanosecond whose whole part is not zero, then a fraction
without trailing zeros: `5s`, `1.5s`, `1.000001ms`, `999ns`, and `0ns` for no time at all.

Source: the text of a duration in the `HandshakeTimeout` of `SPEC_FULL.md` §10.4.
-/

namespace EtcdClient

/-- A length of time. -/
structure Duration where
  nanoseconds : Nat
  deriving DecidableEq

namespace Duration

/-- So many whole seconds. -/
def ofSeconds (n : Nat) : Duration := ⟨n * 1000000000⟩

/-- So many whole milliseconds. -/
def ofMillis (n : Nat) : Duration := ⟨n * 1000000⟩

instance : Add Duration := ⟨fun a b => ⟨a.nanoseconds + b.nanoseconds⟩⟩

instance : LE Duration := ⟨fun a b => a.nanoseconds ≤ b.nanoseconds⟩

instance (a b : Duration) : Decidable (a ≤ b) :=
  inferInstanceAs (Decidable (a.nanoseconds ≤ b.nanoseconds))

instance : LT Duration := ⟨fun a b => a.nanoseconds < b.nanoseconds⟩

instance (a b : Duration) : Decidable (a < b) :=
  inferInstanceAs (Decidable (a.nanoseconds < b.nanoseconds))

/-- The fraction `n / 10 ^ places` after the point, without trailing zeros; nothing for zero. -/
def fractionText (n places : Nat) : List Char :=
  if n = 0 then []
  else
    let digits := Text.decimal n
    let padded := List.replicate (places - digits.length) '0' ++ digits
    '.' :: (padded.reverse.dropWhile (· == '0')).reverse

/-- `n` nanoseconds in a unit of `10 ^ places` nanoseconds. -/
def inUnit (n places : Nat) (unit : String) : String :=
  let size := Nat.pow 10 places
  String.ofList (Text.decimal (n / size) ++ fractionText (n % size) places) ++ unit

/-- The duration in its largest unit. -/
def text (d : Duration) : String :=
  let n := d.nanoseconds
  if 1000000000 ≤ n then inUnit n 9 "s"
  else if 1000000 ≤ n then inUnit n 6 "ms"
  else if 1000 ≤ n then inUnit n 3 "µs"
  else inUnit n 0 "ns"

end Duration
end EtcdClient
