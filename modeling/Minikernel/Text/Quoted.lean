import Minikernel.Text.Hex
import Minikernel.Text.Visible

/-!
Text in double quotes, with every character that could not be told apart on a screen
written as an escape.
-/

namespace Minikernel.Text.Quoted

def numbered (character : Char) : String :=
  "\\u\x7b" ++ Hex.digits character.toNat ++ "\x7d"

def escape (character : Char) : String :=
  if character = '\x00' then "\\0"
  else if character = '\t' then "\\t"
  else if character = '\n' then "\\n"
  else if character = '\r' then "\\r"
  else if character = '"' then "\\\""
  else if character = '\\' then "\\\\"
  else if isExtending character || !isVisible character then numbered character
  else character.toString

end Quoted

def quoted (text : String) : String :=
  "\"" ++ String.join (text.toList.map Quoted.escape) ++ "\""

end Minikernel.Text
