import NodeWatch.Text.Decimal
import NodeWatch.Text.Unprintable

/-!
# Quoted text

A name of unknown origin is shown between double quotes, with escapes that leave it on one line and
make every character of it visible.
-/

namespace NodeWatch.Text.Quoted

/-- The code point of `c` between braces. -/
def codePoint (c : Char) : List Char :=
  '\\' :: 'u' :: '\x7b' :: hexadecimal c.toNat ++ ['\x7d']

/-- How one character is written: the quote, the backslash, NUL, tab, line feed and carriage return
have short escapes, and what has no glyph of its own is written by its code point. -/
def escape (c : Char) : List Char :=
  match c with
  | '"' => ['\\', '"']
  | '\\' => ['\\', '\\']
  | '\x00' => ['\\', '0']
  | '\t' => ['\\', 't']
  | '\n' => ['\\', 'n']
  | '\r' => ['\\', 'r']
  | c => if isGraphemeExtend c || isUnprintable c then codePoint c else [c]

/-- The text between quotes. -/
def encode (s : List Char) : List Char :=
  '"' :: s.flatMap escape ++ ['"']

end NodeWatch.Text.Quoted
