import Criteria.Text.Extender
import Criteria.Text.Printable

/-!
# Texts in quotes

A quoted text stands between double quotes. The quote, the backslash and four controls are
written with a backslash; a character that is not printable, or that would join the character
before it, is written as its code point in hexadecimal; every other character stands for itself.
-/

namespace Criteria.Text

/-- Write a code point in lower-case hexadecimal without padding. -/
def hex (n : Nat) : String :=
  String.ofList (Nat.toDigits 16 n)

/-- Write one character of a quoted text. -/
def quoteChar (c : Char) : String :=
  if c = '"' then "\\\""
  else if c = '\\' then "\\\\"
  else if c = '\u0000' then "\\0"
  else if c = '\t' then "\\t"
  else if c = '\r' then "\\r"
  else if c = '\n' then "\\n"
  else if isExtender c || !isPrintable c then "\\u\x7b" ++ hex c.toNat ++ "\x7d"
  else String.singleton c

/-- Write a text in quotes. -/
def quote (text : String) : String :=
  "\"" ++ String.join (text.toList.map quoteChar) ++ "\""

/-- Write a list of texts in quotes, in brackets and with commas between. -/
def quoteList (texts : List String) : String :=
  "[" ++ ", ".intercalate (texts.map quote) ++ "]"

example : quote "a\"b\\c\n" = "\"a\\\"b\\\\c\\n\"" := by decide +kernel

example : quote "e\u0301\u00a0\u00e9" = "\"e\\u\x7b301\x7d\\u\x7ba0\x7d\u00e9\"" := by
  decide +kernel

example : quoteList ["Mood", "0"] = "[\"Mood\", \"0\"]" := by decide +kernel

end Criteria.Text
