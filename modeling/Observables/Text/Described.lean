import Observables.Text.Compact
import Observables.Text.Shown

/-!
# Quoted text in descriptions

Where a text is part of a description for a reader, it stands between double
quotes. The quote, the backslash, the null character, tab, newline and return
are written by a backslash and a character; every other character that would
not be visible on its own is written by its number in braces.
-/

namespace Observables.Text

/-- How one character stands between the quotes of a description. -/
def describedCharacter (character : Char) : List Char :=
  if character = '"' then ['\\', '"']
  else if character = '\\' then ['\\', '\\']
  else if character = '\n' then ['\\', 'n']
  else if character = '\r' then ['\\', 'r']
  else if character = '\t' then ['\\', 't']
  else if character = Char.ofNat 0 then ['\\', '0']
  else if isShown character then [character]
  else ['\\', 'u', '\x7b'] ++ hexadecimal character.toNat ++ ['\x7d']

/-- A text between quotes, with nothing invisible in it. -/
def described (text : String) : String :=
  String.ofList ('"' :: text.toList.flatMap describedCharacter ++ ['"'])

end Observables.Text
