import EtcdClient.Host.Domain.NormalTable

/-
# Normalization form C

A text is taken apart into base characters and marks, the marks of each base are put into the
order of their classes, and what can be put together again is. A syllable of Hangul is made of a
leading consonant, a vowel and perhaps a trailing consonant by a rule instead of the table.
-/

namespace EtcdClient
namespace Host
namespace Domain

/-- One entry of the table of decompositions. -/
def decompositionOfChars? (cs : List Char) : Option (Nat × List Nat) := do
  let (a, b) ← Text.cutFirst ':' cs
  return (← Text.hexNumber? a, ← (Text.pieces '+' b).mapM Text.hexNumber?)

def decompositions : List (Nat × List Nat) :=
  (Text.words decompositionText).filterMap decompositionOfChars?

/-- One entry of the table of classes. -/
def classOfChars? (cs : List Char) : Option ((Nat × Nat) × Nat) := do
  let (a, b) ← Text.cutFirst ':' cs
  return (← Text.codeRange? a, ← Text.hexNumber? b)

def classes : List ((Nat × Nat) × Nat) := (Text.words classText).filterMap classOfChars?

/-- The combining class, zero of a character that is no mark with an order. -/
def combiningClass (n : Nat) : Nat :=
  if n < 0x300 then 0
  else ((classes.find? fun ((low, high), _) => low ≤ n && n ≤ high).map (·.2)).getD 0

/-- The consonants and the vowel of a syllable. -/
def syllableParts? (n : Nat) : Option (List Nat) :=
  if 0xAC00 ≤ n ∧ n ≤ 0xD7A3 then
    let i := n - 0xAC00
    some <| [0x1100 + i / 588, 0x1161 + i % 588 / 28] ++
      (if i % 28 = 0 then [] else [0x11A7 + i % 28])
  else none

/-- Takes a character apart, its parts again up to `depth` times. -/
def takeApart : Nat → Nat → List Nat
  | 0, n => [n]
  | depth + 1, n =>
    if n < 0xC0 then [n]
    else
      match syllableParts? n with
      | some parts => parts
      | none =>
        match decompositions.lookup n with
        | some parts => parts.flatMap (takeApart depth)
        | none => [n]

/-- No decomposition of the table goes deeper than this. -/
def decompositionDepth : Nat := 4

/-- Puts a character behind a text that is given from its end: a mark goes in front of marks of
higher classes. -/
def settle (n : Nat) : List Nat → List Nat
  | [] => [n]
  | m :: ms =>
    if combiningClass n ≠ 0 ∧ combiningClass n < combiningClass m then m :: settle n ms
    else n :: m :: ms

/-- The text with its marks in order. -/
def order (ns : List Nat) : List Nat := (ns.foldl (fun out n => settle n out) []).reverse

/-- The character that two others make. -/
def composed? (a b : Nat) : Option Nat :=
  if 0x1100 ≤ a ∧ a ≤ 0x1112 ∧ 0x1161 ≤ b ∧ b ≤ 0x1175 then
    some (0xAC00 + ((a - 0x1100) * 21 + (b - 0x1161)) * 28)
  else if 0xAC00 ≤ a ∧ a ≤ 0xD7A3 ∧ (a - 0xAC00) % 28 = 0 ∧ 0x11A8 ≤ b ∧ b ≤ 0x11C2 then
    some (a + (b - 0x11A7))
  else if b < 0x300 then none
  else
    (decompositions.find? fun (c, parts) => parts == [a, b] && !excludedRanges.contains c).map (·.1)

/-- A text that is being put together: what is done, from its end, then the last base and the
marks behind it that stay apart, from the last one. -/
structure Composition where
  done : List Nat := []
  base : Option Nat := none
  marks : List Nat := []

namespace Composition

/-- Base and marks join what is done. -/
def flush (s : Composition) : List Nat :=
  s.marks ++ s.base.toList ++ s.done

/-- A mark reaches the base over marks of lower classes only. -/
def reaches (s : Composition) (n : Nat) : Bool :=
  match s.marks with
  | [] => true
  | m :: _ => combiningClass m < combiningClass n

/-- Takes the next character: it melts into the base, or begins a new one, or stays as a mark. -/
def push (s : Composition) (n : Nat) : Composition :=
  match s.base.filter (fun _ => s.reaches n) |>.bind (composed? · n) with
  | some c => { s with base := some c }
  | none =>
    if combiningClass n = 0 then ⟨s.flush, some n, []⟩
    else
      match s.base with
      | some _ => { s with marks := n :: s.marks }
      | none => { s with done := n :: s.done }

end Composition

/-- Normalization form C of a text. -/
def normalize (ns : List Nat) : List Nat :=
  ((order (ns.flatMap (takeApart decompositionDepth))).foldl Composition.push {}).flush.reverse

end Domain
end Host
end EtcdClient
