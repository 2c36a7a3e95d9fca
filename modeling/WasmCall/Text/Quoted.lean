import WasmCall.Text.Hex
import WasmCall.Text.Printable

/-!
# Quoted text

A text is quoted so that its ends can be seen and nothing in it is invisible: the quote and the
backslash are preceded by a backslash, the common controls have a letter each, and every other
character which cannot be printed on its own is written by its number.
-/

namespace WasmCall.Text

/-- A character inside of quotes. -/
def quotedChar (c : Char) : String :=
  match c with
  | '"' => "\\\""
  | '\\' => "\\\\"
  | '\n' => "\\n"
  | '\r' => "\\r"
  | '\t' => "\\t"
  | '\x00' => "\\0"
  | _ =>
    if isPrintable c then String.ofList [c]
    else "\\u\x7b" ++ hex c.toNat ++ "\x7d"

/-- A text in quotes. -/
def quoted (s : String) : String :=
  "\"" ++ String.join (s.toList.map quotedChar) ++ "\""

end WasmCall.Text
