import HostCall.Text.Unseen

/-!
# Quoted text

The record form of a text: between double quotes, with the quote, the backslash
and what cannot be shown by itself written as escapes.
-/

set_option autoImplicit false

namespace HostCall.Text

/-- A character between quotes: the quote and the backslash escaped, the common
controls by letter and whatever else cannot be shown by number. -/
def escape (character : Char) : List Char :=
  match character with
  | '\x00' => ['\\', '0']
  | '\t' => ['\\', 't']
  | '\n' => ['\\', 'n']
  | '\r' => ['\\', 'r']
  | '"' => ['\\', '"']
  | '\\' => ['\\', '\\']
  | other =>
      if isUnseen other then
        ['\\', 'u', '\x7b'] ++ Nat.toDigits 16 other.toNat ++ ['\x7d']
      else [other]

/-- A text between double quotes. -/
def quoted (text : String) : String :=
  "\"" ++ String.ofList (text.toList.flatMap escape) ++ "\""

end HostCall.Text
