import EtcdClient.Text.Blank

/-
# The lines of a settings file

A line ends at a line feed outside quotes. Quotes are counted as they are met, a backslash takes
away the meaning of the next character, and a number sign behind a blank begins a comment that
goes up to the end of the line. Of two blanks in a row the second counts as an ordinary character,
so a number sign behind both is left to the reader of the line. A file that ends inside quotes,
behind a backslash or behind a blank has no last line.

Source: the reader of lines in the library that `load_dotenv` calls.
-/

namespace EtcdClient
namespace Dotenv

/-- Where the end of a line is looked for. -/
inductive Position
  | plain
  | escape
  | blank
  | strong
  | strongEscape
  | weak
  | weakEscape
  deriving DecidableEq

namespace Position

/-- Outside quotes: a backslash, a quote, or anything else. -/
def outside (c : Char) (other : Position) : Position :=
  if c = '\\' then escape
  else if c = '\x22' then weak
  else if c = '\x27' then strong
  else other

/-- The position behind a character. -/
def next (p : Position) (c : Char) : Position :=
  match p with
  | plain => outside c (if Text.isBlank c ∧ c ≠ '\n' ∧ c ≠ '\r' then blank else plain)
  | blank => outside c plain
  | escape => plain
  | strong => if c = '\\' then strongEscape else if c = '\x27' then plain else strong
  | strongEscape => strong
  | weak => if c = '\\' then weakEscape else if c = '\x22' then plain else weak
  | weakEscape => weak

end Position

/-- A line given from its end, without the carriage return there. -/
def finish : List Char → List Char
  | '\r' :: line => line.reverse
  | line => line.reverse

/-- The lines of a text, `none` for a last one that has no end. `line` is the current line up to
here, from its end; a comment is passed over. -/
def linesFrom (p : Position) (line : List Char) (comment : Bool) :
    List Char → List (Option (List Char))
  | [] =>
    if comment then []
    else if p ≠ .plain then [none]
    else if line.isEmpty then []
    else [some line.reverse]
  | c :: cs =>
    if comment then linesFrom .plain [] (c ≠ '\n') cs
    else if c = '#' ∧ (p = .blank ∨ line.all Text.isBlank) then
      some line.reverse :: linesFrom .plain [] true cs
    else if c = '\n' ∧ p.next c = .plain then some (finish line) :: linesFrom .plain [] false cs
    else linesFrom (p.next c) (c :: line) false cs

/-- The lines of a file; a mark of byte order at its beginning is passed over. -/
def lines (s : String) : List (Option (List Char)) :=
  match s.toList with
  | '\ufeff' :: cs => linesFrom .plain [] false cs
  | cs => linesFrom .plain [] false cs

end Dotenv
end EtcdClient
