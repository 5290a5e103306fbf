import TermSync.Text.Printable

/-!
# Quoted text in messages

A message that shows a text puts it between double quotes, on one line, so that every character
can be told apart: the quote, the backslash, tab and line ends have a short escape, and what is
unprintable or would join the character before it is written by its code point.
-/

namespace TermSync.Text

/-- A character of a quoted text. -/
def showChar (c : Char) : List Char :=
  if c = '\x00' then ['\\', '0']
  else if c = '\t' then ['\\', 't']
  else if c = '\r' then ['\\', 'r']
  else if c = '\n' then ['\\', 'n']
  else if c = '"' then ['\\', '"']
  else if c = '\\' then ['\\', '\\']
  else if isGraphemeExtender c || !isPrintable c then
    ['\\', 'u', '\x7b'] ++ Nat.toDigits 16 c.toNat ++ ['\x7d']
  else [c]

/-- A text between double quotes. -/
def quoted (s : String) : String :=
  String.ofList ('"' :: s.toList.flatMap showChar ++ ['"'])

end TermSync.Text
