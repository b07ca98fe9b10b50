import NodeLowering.Text.Printable

/-! Strings in quotation marks, with escapes for what would not show or would end the string. -/
namespace NodeLowering.Text

def hexDigit (n : Nat) : Char := Char.ofNat (if n < 10 then 48 + n else 87 + n)

/-- The digits of `n` in base sixteen, of which at most `more` follow the first. -/
def hexDigits : (more : Nat) → Nat → List Char
  | 0, n => [hexDigit (n % 16)]
  | more + 1, n => if n < 16 then [hexDigit n] else hexDigits more (n / 16) ++ [hexDigit (n % 16)]

/-- How a character stands between quotation marks. -/
def escape (c : Char) : List Char :=
  match c with
  | '"' => ['\\', '"']
  | '\\' => ['\\', '\\']
  | '\t' => ['\\', 't']
  | '\n' => ['\\', 'n']
  | '\r' => ['\\', 'r']
  | '\x00' => ['\\', '0']
  | c => if isPrintable c then [c] else ['\\', 'u', '\x7b'] ++ hexDigits 5 c.toNat ++ ['\x7d']

def quoted (s : String) : String :=
  String.ofList ('"' :: s.toList.flatMap escape ++ ['"'])

/-- Quoted strings in brackets. -/
def quotedList (strings : List String) : String :=
  "[" ++ ", ".intercalate (strings.map quoted) ++ "]"

end NodeLowering.Text
