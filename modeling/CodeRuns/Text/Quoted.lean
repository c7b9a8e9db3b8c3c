import CodeRuns.Text.Invisible

/-! Texts in double quotes for log lines. Quotes, backslashes and line controls are
escaped by a letter, other characters that show nothing of their own by their number. -/

namespace CodeRuns.Text.Quoted

def numbered (c : Char) : List Char :=
  '\\' :: 'u' :: '\x7b' :: (Nat.toDigits 16 c.toNat ++ ['\x7d'])

def escaped (c : Char) : List Char :=
  match c with
  | '\x00' => ['\\', '0']
  | '\t' => ['\\', 't']
  | '\n' => ['\\', 'n']
  | '\r' => ['\\', 'r']
  | '\x22' => ['\\', '\x22']
  | '\\' => ['\\', '\\']
  | _ => if Invisible.isInvisible c then numbered c else [c]

def text (s : String) : String :=
  String.ofList ('\x22' :: (s.toList.flatMap escaped ++ ['\x22']))

end CodeRuns.Text.Quoted
