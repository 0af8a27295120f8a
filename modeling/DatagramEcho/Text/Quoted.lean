import DatagramEcho.Text.Printable

/-!
# Quoted text

Messages show a text between double quotation marks with everything invisible spelled out, so that
the quoted form is one line and names each character. The usual short escapes are taken where they
exist, and the hexadecimal code point between braces elsewhere.
-/

namespace DatagramEcho.Text

/-- The escape of a character by its code point, in lower-case hexadecimal digits. -/
def codePointEscape (c : Char) : String :=
  "\\u\x7b" ++ String.ofList (Nat.toDigits 16 c.toNat) ++ "\x7d"

/-- One character inside quotation marks. -/
def escapeChar (c : Char) : String :=
  if c = '\x00' then "\\0"
  else if c = '\t' then "\\t"
  else if c = '\r' then "\\r"
  else if c = '\n' then "\\n"
  else if c = '\\' then "\\\\"
  else if c = '"' then "\\\""
  else if extendsGrapheme c || !isPrintable c then codePointEscape c
  else c.toString

/-- A text between double quotation marks. -/
def quoted (text : String) : String :=
  "\"" ++ String.join (text.toList.map escapeChar) ++ "\""

end DatagramEcho.Text
