import PlatformOperator.Text.Unshown

/-! Texts between double quotes, as messages show names: a quote or backslash gets a backslash, and
    characters that cannot be shown are written by name or code point. -/

namespace PlatformOperator.Text

/-- The hexadecimal digits of `n`, in lower case and without leading zeros. -/
def hex (n : Nat) : String := String.ofList (Nat.toDigits 16 n)

/-- How a quoted text writes `c`. -/
def escaped (c : Char) : String :=
  if c = '"' then "\\\"" else if c = '\\' then "\\\\" else if c = '\t' then "\\t"
  else if c = '\n' then "\\n" else if c = '\r' then "\\r" else if c = '\x00' then "\\0"
  else if isUnshown c then "\\u\x7b" ++ hex c.toNat ++ "\x7d" else c.toString

/-- The text between quotes. -/
def quoted (s : String) : String := "\"" ++ String.join (s.toList.map escaped) ++ "\""

end PlatformOperator.Text
