/-
# Numerals

Reading and writing whole numbers. A numeral is an optional sign and a run of ASCII digits;
leading zeros and a leading `+` are allowed, `-` only where the type has negative values. The
digits are read from the left, and the first fault met there is the one reported:

| text | fault |
| --- | --- |
| no character at all | `empty` |
| a sign alone, or any other character than a digit | `invalidDigit` |
| a value above the largest of the type | `tooLarge` |
| a value below the smallest of the type | `tooSmall` |

So `99999x` is too large for 16 bits, while `6553x` has an invalid digit.
-/

namespace EtcdClient
namespace Text

/-- Why a text is no numeral of a type. -/
inductive NumeralFault
  | empty
  | invalidDigit
  | tooLarge
  | tooSmall
  deriving DecidableEq

/-- The fault in words. -/
def NumeralFault.message : NumeralFault → String
  | .empty => "cannot parse integer from empty string"
  | .invalidDigit => "invalid digit found in string"
  | .tooLarge => "number too large to fit in target type"
  | .tooSmall => "number too small to fit in target type"

/-- Continues the value `n` with the digits of a text; above `max` the fault is `beyond`. -/
def readDigits (max : Nat) (beyond : NumeralFault) (n : Nat) :
    List Char → Except NumeralFault Nat
  | [] => .ok n
  | c :: cs =>
    if c.isDigit then
      if 10 * n + (c.toNat - 48) ≤ max then readDigits max beyond (10 * n + (c.toNat - 48)) cs
      else .error beyond
    else .error .invalidDigit

/-- A number from 0 to `max`. -/
def readNatural (max : Nat) : List Char → Except NumeralFault Nat
  | [] => .error .empty
  | ['+'] => .error .invalidDigit
  | '+' :: cs => readDigits max .tooLarge 0 cs
  | cs => readDigits max .tooLarge 0 cs

/-- A number from `-(max + 1)` to `max`. -/
def readInteger (max : Nat) : List Char → Except NumeralFault Int
  | [] => .error .empty
  | ['-'] => .error .invalidDigit
  | '-' :: cs => (readDigits (max + 1) .tooSmall 0 cs).map fun n => -(n : Int)
  | cs => (readNatural max cs).map Int.ofNat

/-- An unsigned number of 64 bits. -/
def readUInt64 (cs : List Char) : Except NumeralFault UInt64 :=
  (readNatural (UInt64.size - 1) cs).map UInt64.ofNat

/-- An unsigned number of 16 bits. -/
def readUInt16 (cs : List Char) : Except NumeralFault UInt16 :=
  (readNatural (UInt16.size - 1) cs).map UInt16.ofNat

/-- The decimal digits of a number. -/
def decimal (n : Nat) : List Char := Nat.toDigits 10 n

/-- The digits of a number in base 16, in lower case. -/
def hex (n : Nat) : List Char := Nat.toDigits 16 n

/-- A number in decimal digits. -/
def decimalText (n : Nat) : String := String.ofList (decimal n)

/-- A number in decimal digits, a minus sign in front of a negative one. -/
def signedText : Int → String
  | .ofNat n => decimalText n
  | .negSucc n => "-" ++ decimalText (n + 1)

/-- The 64 bits of a number in base 16, after `0x`. A negative number shows its two's
complement. -/
def hexText (n : Int64) : String := "0x" ++ String.ofList (hex n.toUInt64.toNat)

example : hexText 42 = "0x2a" := by decide
example : readNatural 65535 "99999x".toList = .error .tooLarge := by rfl
example : readNatural 65535 "6553x".toList = .error .invalidDigit := by rfl
example : readInteger 127 "-128".toList = .ok (-128) := by rfl

end Text
end EtcdClient
