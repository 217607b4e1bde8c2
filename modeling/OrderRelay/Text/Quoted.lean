import OrderRelay.Text.Printable

/-!
# Quoted texts

How a text or a character is shown inside a message: between quotes, with a backslash before what could
be mistaken for the end, and every character that is not plain written by its code point.

* `hexDigits`, the number of a code point in base sixteen;
* `escape quote c`, one character between quotes of the kind `quote`;
* `quoted` for texts, `quotedChar` for characters.
-/

namespace OrderRelay.Text

/-- The digits of a number in base sixteen, in lower case, without leading zeros. -/
def hexDigits (n : Nat) : String := String.ofList (Nat.toDigits 16 n)

/-- A character as it stands between two quotes `quote`. Only that quote is escaped: an apostrophe stays
as it is in a text, a double quote in a character. -/
def escape (quote c : Char) : String :=
  if c = '\x00' then "\\0"
  else if c = '\t' then "\\t"
  else if c = '\r' then "\\r"
  else if c = '\n' then "\\n"
  else if c = '\\' then "\\\\"
  else if c = quote then "\\" ++ quote.toString
  else if isPlain c then c.toString
  else "\\u\x7b" ++ hexDigits c.toNat ++ "\x7d"

/-- A text between double quotes. -/
def quoted (s : String) : String :=
  "\"" ++ s.foldl (fun acc c => acc ++ escape '"' c) "" ++ "\""

/-- A character between apostrophes. -/
def quotedChar (c : Char) : String := "'" ++ escape '\'' c ++ "'"

end OrderRelay.Text
