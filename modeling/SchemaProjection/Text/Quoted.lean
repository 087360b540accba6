/-
Module: SchemaProjection.Text.Quoted
Purpose: Quoted text. A text stands between two delimiters, an apostrophe unless the text holds one
  and no double quote; inside, the backslash and the delimiter follow a backslash, line feed,
  carriage return and tab have a letter, and any other character that is not shown as itself is
  written by its code point in a fixed number of hexadecimal digits.
Imports: SchemaProjection.Text.Printable
Main exports: quoted, escape, delimiter
-/
import SchemaProjection.Text.Printable

namespace SchemaProjection.Text

/-- The last `width` hexadecimal digits of a number, the most significant first, in lower case. -/
def hexDigits : Nat → Nat → List Char
  | 0, _ => []
  | width + 1, n => hexDigits width (n / 16) ++ [Nat.digitChar (n % 16)]

/-- A character by its code point, in two digits below U+0100, four below U+10000, else eight. -/
def escapeCode (c : Char) : List Char :=
  if c.toNat < 0x100 then '\\' :: 'x' :: hexDigits 2 c.toNat
  else if c.toNat < 0x10000 then '\\' :: 'u' :: hexDigits 4 c.toNat
  else '\\' :: 'U' :: hexDigits 8 c.toNat

/-- How one character is written between two delimiters. -/
def escape (delimiter c : Char) : List Char :=
  if c = delimiter || c = '\\' then ['\\', c]
  else if c = '\n' then ['\\', 'n']
  else if c = '\r' then ['\\', 'r']
  else if c = '\t' then ['\\', 't']
  else if isPrintable c then [c]
  else escapeCode c

/-- The delimiter of a text: the double quote exactly when it saves escaping an apostrophe. -/
def delimiter (s : List Char) : Char :=
  if s.contains '\'' && !s.contains '"' then '"' else '\''

/-- A text between its delimiters, with the characters that cannot stand there escaped. -/
def quoted (s : String) : String :=
  let mark := delimiter s.toList
  String.ofList (mark :: s.toList.flatMap (escape mark) ++ [mark])

end SchemaProjection.Text
