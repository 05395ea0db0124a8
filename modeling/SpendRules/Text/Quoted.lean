import SpendRules.Text.Digits
import SpendRules.Text.Printable

namespace SpendRules
namespace Text

/-!
# Quoted text

A text that is shown inside a message stands between double quotes on one line.  Quotes and
backslashes get a backslash in front, the usual controls their letter, and every other
character that is not printable its number.
-/

def quotedChar (char : Char) : List Char :=
  if char = '"' then ['\\', '"']
  else if char = '\\' then ['\\', '\\']
  else if char = '\n' then ['\\', 'n']
  else if char = '\r' then ['\\', 'r']
  else if char = '\t' then ['\\', 't']
  else if char = Char.ofNat 0 then ['\\', '0']
  else if isPrintable char then [char]
  else ['\\', 'u', '\x7b'] ++ hexadecimal char.toNat ++ ['\x7d']

def quoted (text : String) : String :=
  String.ofList ('"' :: (text.toList.flatMap quotedChar ++ ['"']))

end Text
end SpendRules
