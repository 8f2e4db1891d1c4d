import Passbook.Text.Digits
import Passbook.Text.Visible

/-! # Quoted text in messages

A text inside a message stands between double quotes. Quotes and backslashes are escaped, the
common control characters have letters, and every other character without a visible form is
given by its code point.
-/
namespace Passbook.Text

def escapeVisible (c : Char) : List Char :=
  if c.toNat = 0 then ['\\', '0']
  else if c = '\t' then ['\\', 't']
  else if c = '\n' then ['\\', 'n']
  else if c = '\r' then ['\\', 'r']
  else if c = '"' then ['\\', '"']
  else if c = '\\' then ['\\', '\\']
  else if isVisible c then [c]
  else ['\\', 'u', '{'] ++ hexDigits c.toNat ++ ['}']

def quote (s : String) : String := String.ofList ('"' :: (s.toList.flatMap escapeVisible ++ ['"']))

end Passbook.Text
