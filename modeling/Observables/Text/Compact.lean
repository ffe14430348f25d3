/-!
# Quoted text in compact documents

A text is quoted by putting it between two double quotes and writing the
characters that would end or break it by escapes: the quote and the backslash
by a backslash before them, five control characters by a letter, the other
control characters below the space by four hexadecimal digits. Every other
character stands for itself.
-/

namespace Observables.Text

/-- Lower-case hexadecimal digits of a number, without leading zeros. -/
def hexadecimal (number : Nat) : List Char := Nat.toDigits 16 number

/-- A number by four hexadecimal digits at least. -/
def fourDigits (number : Nat) : List Char :=
  let digits := hexadecimal number
  List.replicate (4 - digits.length) '0' ++ digits

/-- How one character stands between the quotes. -/
def compactCharacter (character : Char) : List Char :=
  if character = '"' then ['\\', '"']
  else if character = '\\' then ['\\', '\\']
  else if character = '\n' then ['\\', 'n']
  else if character = '\r' then ['\\', 'r']
  else if character = '\t' then ['\\', 't']
  else if character = Char.ofNat 8 then ['\\', 'b']
  else if character = Char.ofNat 12 then ['\\', 'f']
  else if character.toNat < 32 then '\\' :: 'u' :: fourDigits character.toNat
  else [character]

/-- A text between quotes. -/
def compact (text : String) : String :=
  String.ofList ('"' :: text.toList.flatMap compactCharacter ++ ['"'])

end Observables.Text
