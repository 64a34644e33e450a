import JsonTyping.Text.Unprintable

/-!
# Quoted text in diagnostics

Diagnostics quote text so that a reader can tell all characters apart: what cannot be seen is
written by its code point between braces, without leading zeros.
-/

namespace JsonTyping

/-- The written form of one character in diagnostics. -/
def diagnosticChar (c : Char) : List Char :=
  match c with
  | '"' => ['\\', '"']
  | '\\' => ['\\', '\\']
  | '\n' => ['\\', 'n']
  | '\r' => ['\\', 'r']
  | '\t' => ['\\', 't']
  | '\x00' => ['\\', '0']
  | _ =>
    if isUnprintable c then
      ['\\', 'u', '\x7b'] ++ Nat.toDigits 16 c.toNat ++ ['\x7d']
    else
      [c]

/-- A text between quotation marks, for diagnostics. -/
def diagnostic (s : String) : String :=
  String.ofList ('"' :: (s.toList.flatMap diagnosticChar ++ ['"']))

end JsonTyping
