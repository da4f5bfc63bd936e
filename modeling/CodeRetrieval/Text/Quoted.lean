import CodeRetrieval.Text.Digit
import CodeRetrieval.Text.Lines
import CodeRetrieval.Text.Printable

/-!
# Quoted texts in messages

A text in a message stands between apostrophes, or between double quotes when it holds
an apostrophe and no double quote. The quote, backslashes and characters that are not
printable are escaped. A list of texts stands in brackets, with a comma and a space
between its entries.
-/

namespace CodeRetrieval.Text

def quoteFor (s : List Char) : Char :=
  if s.contains '\x27' && !s.contains '\x22' then '\x22' else '\x27'

def escaped (quote c : Char) : List Char :=
  if c = quote ∨ c = '\\' then ['\\', c]
  else if c = '\n' then ['\\', 'n']
  else if c = '\r' then ['\\', 'r']
  else if c = '\t' then ['\\', 't']
  else if isPrintable c then [c]
  else if c.toNat < 0x100 then '\\' :: 'x' :: hexDigits 2 c.toNat
  else if c.toNat < 0x10000 then '\\' :: 'u' :: hexDigits 4 c.toNat
  else '\\' :: 'U' :: hexDigits 8 c.toNat

def quoted (s : String) : String :=
  let quote := quoteFor s.toList
  String.ofList (quote :: s.toList.flatMap (escaped quote) ++ [quote])

def bracketed (entries : List String) : String :=
  "[" ++ join ", " entries ++ "]"

def quotedList (entries : List String) : String :=
  bracketed (entries.map quoted)

end CodeRetrieval.Text
