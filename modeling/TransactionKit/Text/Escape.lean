import TransactionKit.Text.Printable

/-!
Escaped display of characters and texts, used wherever a message has to show text exactly. A
character that is a control, a delimiter or a backslash is shown by its short escape where there
is one; a character that combines with its predecessor or shows nothing by itself is shown by its
code point in braces; every other character stands for itself.
-/

namespace TransactionKit.Text

/-- A code point in hexadecimal between braces, after a backslash and `u`. -/
def codePointEscape (c : Char) : List Char :=
  "\\u\x7b".toList ++ Nat.toDigits 16 c.toNat ++ "\x7d".toList

/-- A character as it is shown between two `delimiter`s. -/
def escapeChar (delimiter c : Char) : List Char :=
  if c = delimiter || c = '\\' then ['\\', c]
  else if c = '\x00' then ['\\', '0']
  else if c = '\t' then ['\\', 't']
  else if c = '\r' then ['\\', 'r']
  else if c = '\n' then ['\\', 'n']
  else if isExtending c || !isPrintable c then codePointEscape c
  else [c]

/-- A character between apostrophes. -/
def shownChar (c : Char) : String :=
  String.ofList ('\'' :: escapeChar '\'' c ++ ['\''])

/-- A text between double quotes. -/
def shown (s : String) : String :=
  String.ofList ('"' :: s.toList.flatMap (escapeChar '"') ++ ['"'])

example : escapeChar '"' (Char.ofNat 0x301) = "\\u\x7b301\x7d".toList := by decide +kernel

end TransactionKit.Text
