import EtcdClient.Text.Hidden
import EtcdClient.Text.Numeral

/-
# Quoted texts

A quoted text stands between double quotes. In it the double quote, the backslash, the tab, the
line feed, the carriage return and the null character have escapes of two characters, every other
hidden character is written by its number in base 16, and the rest stands for itself; an
apostrophe is not escaped.

Source: the quoted texts in what is printed of statuses and credentials.
-/

namespace EtcdClient
namespace Text

/-- How one character is written inside quotes. -/
def escape (c : Char) : List Char :=
  if c = '\x00' then ['\\', '0']
  else if c = '\t' then ['\\', 't']
  else if c = '\n' then ['\\', 'n']
  else if c = '\r' then ['\\', 'r']
  else if c = '\x22' ∨ c = '\\' then ['\\', c]
  else if isHidden c then ['\\', 'u', '\x7b'] ++ hex c.toNat ++ ['\x7d']
  else [c]

/-- A text in double quotes. -/
def quoted (s : String) : String :=
  String.ofList ('\x22' :: s.toList.flatMap escape ++ ['\x22'])

end Text
end EtcdClient
