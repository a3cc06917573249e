import ArtifactFetch.Text.Hidden

/-! # Quoted text

A text is shown between double quotes with the quote and the backslash escaped by a backslash, the
four controls `\0 \t \n \r` by their letters, and every other hidden character by `\u{…}` with its
code point in lower-case hexadecimal. An apostrophe stands for itself. -/

namespace ArtifactFetch.Text

/-- A number in lower-case hexadecimal without leading zeros. -/
def hex (n : Nat) : List Char := Nat.toDigits 16 n

/-- How one character stands inside quoted text. -/
def quoteChar (c : Char) : List Char :=
  if c = '"' then ['\\', '"']
  else if c = '\\' then ['\\', '\\']
  else if c = Char.ofNat 0 then ['\\', '0']
  else if c = '\t' then ['\\', 't']
  else if c = '\n' then ['\\', 'n']
  else if c = '\r' then ['\\', 'r']
  else if isHidden c then ['\\', 'u', '{'] ++ hex c.toNat ++ ['}']
  else [c]

/-- The text between quotes, escaped. -/
def quoted (s : String) : String :=
  String.ofList ('"' :: s.toList.flatMap quoteChar ++ ['"'])

end ArtifactFetch.Text
