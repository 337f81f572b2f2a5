import TagSelection.Text.HexDigit
import TagSelection.Text.Hidden

/-!
# Quoted text

Messages quote a value so that every character can be told: a quote, a backslash
and the common control characters get a backslash, and a character without a mark
of its own is shown by its code point in lower-case hexadecimal digits.
-/

namespace TagSelection.Text

def quotedChar (c : Char) : String :=
  match c with
  | '"' => "\\\""
  | '\\' => "\\\\"
  | '\n' => "\\n"
  | '\r' => "\\r"
  | '\t' => "\\t"
  | '\x00' => "\\0"
  | _ => if isHidden c then "\\u\x7b" ++ hexDigits c.toNat ++ "\x7d" else c.toString

def quoted (text : String) : String :=
  "\"" ++ String.join (text.toList.map quotedChar) ++ "\""

end TagSelection.Text
