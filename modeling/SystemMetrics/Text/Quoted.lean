import SystemMetrics.Text.Printable

/-!
# Quoted text

The quoted form of a text stands between quotation marks. A backslash, the quotation mark itself,
the usual control characters and every character that has no visible form of its own are written
as escapes; everything else stands for itself.
-/

namespace SystemMetrics.Text

/-- A code point as `\u{…}` with its hexadecimal digits. -/
def unicodeEscape (c : Char) : List Char :=
  ['\\', 'u', '\x7b'] ++ Nat.toDigits 16 c.toNat ++ ['\x7d']

/-- One character as it is written between two `mark`s. -/
def escapeBetween (mark c : Char) : List Char :=
  if c = mark then ['\\', c]
  else match c with
    | '\x00' => ['\\', '0']
    | '\t' => ['\\', 't']
    | '\r' => ['\\', 'r']
    | '\n' => ['\\', 'n']
    | '\\' => ['\\', '\\']
    | _ => if extendsGrapheme c || !isPrintable c then unicodeEscape c else [c]

/-- A text between double quotation marks. -/
def quoted (s : String) : String :=
  String.ofList ('"' :: s.toList.flatMap (escapeBetween '"') ++ ['"'])

/-- A character between single quotation marks. -/
def quotedChar (c : Char) : String := String.ofList ('\'' :: escapeBetween '\'' c ++ ['\''])

end SystemMetrics.Text
