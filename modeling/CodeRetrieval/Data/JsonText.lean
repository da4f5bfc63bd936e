import CodeRetrieval.Data.Basic

/-!
# Writing JSON

Values are written as JSON in ASCII characters: all others are escaped in texts, those
beyond U+FFFF as two units. A space follows each comma and colon. Numbers that JSON does
not know are written as `NaN`, `Infinity` and `-Infinity`.
-/

namespace CodeRetrieval.Data.Json

def unitEscape (n : Nat) : List Char :=
  '\\' :: 'u' :: Text.hexDigits 4 n

def escapedChar (c : Char) : List Char :=
  if c = '\x22' ∨ c = '\\' then ['\\', c]
  else if c = '\n' then ['\\', 'n']
  else if c = '\r' then ['\\', 'r']
  else if c = '\t' then ['\\', 't']
  else if c = '\x08' then ['\\', 'b']
  else if c = '\x0c' then ['\\', 'f']
  else if 0x20 ≤ c.toNat ∧ c.toNat < 0x7F then [c]
  else if c.toNat < 0x10000 then unitEscape c.toNat
  else unitEscape (0xD800 + (c.toNat - 0x10000) / 0x400) ++
    unitEscape (0xDC00 + (c.toNat - 0x10000) % 0x400)

def quotedText (s : String) : String :=
  String.ofList ('\x22' :: s.toList.flatMap escapedChar ++ ['\x22'])

def floatText (x : Float) : String :=
  if x.isNaN then "NaN"
  else if x.isInf then (if x < 0 then "-Infinity" else "Infinity")
  else Decimal.shortestText x

mutual

def text : Data → String
  | null => "null"
  | bool b => if b then "true" else "false"
  | int n => toString n
  | float x => floatText x
  | .text s => quotedText s
  | moment m => quotedText m.text
  | list items => Text.bracketed (texts items)
  | table entries => "\x7b" ++ Text.join ", " (entryTexts entries) ++ "\x7d"

def texts : List Data → List String
  | [] => []
  | d :: ds => text d :: texts ds

def entryTexts : List (String × Data) → List String
  | [] => []
  | (key, d) :: entries => (quotedText key ++ ": " ++ text d) :: entryTexts entries

end

end CodeRetrieval.Data.Json
