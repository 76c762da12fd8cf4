import StatusRouter.Text.Concealed
import StatusRouter.Text.Hexadecimal

/-!
# Quoted text

Names and messages that come from outside are shown in logs and error texts between double quotes.
Inside the quotes a double quote, a backslash and the usual blanks have their short escapes, and a
character that would not show is written by its number in hexadecimal, so that the reader sees
exactly which characters were received.
-/

namespace StatusRouter.Text

/-- How one character is written between the quotes. -/
def quotedChar (c : Char) : List Char :=
  if c = Char.ofNat 0 then ['\\', '0']
  else if c = '\t' then ['\\', 't']
  else if c = '\r' then ['\\', 'r']
  else if c = '\n' then ['\\', 'n']
  else if c = '"' then ['\\', '"']
  else if c = '\\' then ['\\', '\\']
  else if isConcealed c then ['\\', 'u', '\x7b'] ++ hex c.toNat ++ ['\x7d']
  else [c]

/-- A text between double quotes, with escapes. -/
def quoted (s : String) : String :=
  String.ofList ('"' :: s.toList.flatMap quotedChar ++ ['"'])

end StatusRouter.Text
