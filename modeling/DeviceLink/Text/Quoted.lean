-- Quoted text, as messages and log lines show a value that may hold anything: escapes for the
-- quote, the backslash, the common controls, and the code point for whatever does not print.
import DeviceLink.Text.Printable

namespace DeviceLink.Text

/-- The digits of `n` in base sixteen, lower case, at least one. -/
def hexDigits (n : Nat) : String := String.ofList (Nat.toDigits 16 n)

/-- One character inside quotes of the given kind. -/
def escape (delimiter c : Char) : String :=
  if c = '\x00' then "\\0"
  else if c = '\t' then "\\t"
  else if c = '\n' then "\\n"
  else if c = '\r' then "\\r"
  else if c = '\\' ∨ c = delimiter then String.ofList ['\\', c]
  else if isJoining c ∨ ¬ isPrintable c then "\\u\x7b" ++ hexDigits c.toNat ++ "\x7d"
  else String.singleton c

/-- A text in double quotes. -/
def quote (s : String) : String := "\"" ++ String.join (s.toList.map (escape '"')) ++ "\""

/-- A character in single quotes. -/
def quoteChar (c : Char) : String := "'" ++ escape '\'' c ++ "'"

/-- Takes away a pair of double quotes around the whole text, if there is one. -/
def unquote (s : String) : String :=
  match s.toList with
  | '"' :: rest =>
    match rest.reverse with
    | '"' :: inner => String.ofList inner.reverse
    | _ => s
  | _ => s

end DeviceLink.Text
