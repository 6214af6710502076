/-
  RuleScript.Text.Quoted
  ──────────────────────
  **Text in quotes, for reports.**

  Quotes and backslashes get a backslash, and so do the null character, the tab
  and the two characters that end lines, under their usual letters.  A character
  that cannot be shown, or only as part of the one before it, is given by its
  number in base 16.
-/
import RuleScript.Unicode.Property

namespace RuleScript.Text

/-- A character by its number. -/
def numbered (c : Char) : List Char :=
  "\\u\x7b".toList ++ Nat.toDigits 16 c.toNat ++ ['\x7d']

/-- A character as it stands between quotes. -/
def quotedChar (c : Char) : List Char :=
  match c with
  | '\x00' => ['\\', '0']
  | '\t' => ['\\', 't']
  | '\r' => ['\\', 'r']
  | '\n' => ['\\', 'n']
  | '"' => ['\\', '"']
  | '\\' => ['\\', '\\']
  | c =>
    if Unicode.graphemeExtend.contains c || Unicode.unprintable.contains c then numbered c
    else [c]

/-- The text in quotes. -/
def quoted (s : String) : String :=
  String.ofList (['"'] ++ s.toList.flatMap quotedChar ++ ['"'])

end RuleScript.Text
