import SignalScript.Text.Printable

/-!
# Quoted text

Two ways of writing a text between double quotes.

* `quoteJson`     escapes what `JSON` demands: the quote, the backslash, control characters;
* `quoteVisible`  escapes every character that would not be seen as itself.
-/

namespace SignalScript.Text

/-- a code point in lower-case hexadecimal digits -/
def hexDigits (n : Nat) : List Char := Nat.toDigits 16 n

/-- a character inside a `JSON` string -/
def escapeJson (c : Char) : List Char :=
  if c = '"' then ['\\', '"']
  else if c = '\\' then ['\\', '\\']
  else if c = '\x08' then ['\\', 'b']
  else if c = '\x0c' then ['\\', 'f']
  else if c = '\n' then ['\\', 'n']
  else if c = '\r' then ['\\', 'r']
  else if c = '\t' then ['\\', 't']
  else if c.toNat < 0x20 then
    let digits := hexDigits c.toNat
    '\\' :: 'u' :: List.replicate (4 - digits.length) '0' ++ digits
  else [c]

/-- a character inside a text that shows everything -/
def escapeVisible (c : Char) : List Char :=
  if c = '"' then ['\\', '"']
  else if c = '\\' then ['\\', '\\']
  else if c = '\x00' then ['\\', '0']
  else if c = '\n' then ['\\', 'n']
  else if c = '\r' then ['\\', 'r']
  else if c = '\t' then ['\\', 't']
  else if extendsGrapheme c || !isPrintable c then
    '\\' :: 'u' :: '\x7b' :: hexDigits c.toNat ++ ['\x7d']
  else [c]

/-- a text between quotes, each character escaped -/
def quoteWith (escape : Char → List Char) (s : String) : String :=
  String.ofList ('"' :: s.toList.flatMap escape ++ ['"'])

def quoteJson (s : String) : String := quoteWith escapeJson s

def quoteVisible (s : String) : String := quoteWith escapeVisible s

end SignalScript.Text
