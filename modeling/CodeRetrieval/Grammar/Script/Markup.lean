import CodeRetrieval.Grammar.Script.Expressions

/-!
# Markup in expressions

Elements with attributes and children, as they stand in expressions of the dialects with
markup. The text between elements is no code; expressions in braces are.
-/

namespace CodeRetrieval.Grammar.Script

open Syntax

def isMarkupNameChar (c : Char) : Bool :=
  isWordPart c || c == '-' || c == ':'

def markupName : Parser Tree := do
  skip
  require (← nextIs isWordStart)
  leaf "identifier" (takeWhile isMarkupNameChar)

def elementName : Parser Tree := do
  let first ← markupName
  extend (fun t => do
    sign "."
    let name ← word "property_identifier"
    nodeFrom "member_expression" t [t.inField "object", name.inField "property"]) first

/-- An expression in braces, possibly spread or empty. -/
def embedded (p : Rules Part) : Parser Tree :=
  tree "jsx_expression" do
    exactly "\x7b"
    let _ ← optional (sign "...")
    let inner ← optional (p .expression)
    sign "\x7d"
    return inner.toList

/-- A text of an attribute, in which nothing is escaped. -/
def attributeText : Parser Tree := do
  skip
  leaf "string" do
    match (← get).peek? with
    | some quote =>
      require (quote == '\x22' || quote == '\x27')
      take 1
      takeWhile (· != quote)
      exactly (String.singleton quote)
    | none => failure

def attribute_ (p : Rules Part) : Parser Tree := do
  skip
  if ← lookingAt "\x7b" then embedded p
  else
    tree "jsx_attribute" do
      let name ← markupName
      let value ← optional do
        sign "="
        firstOf [attributeText, embedded p, p .markup]
      return name :: value.toList

def markupText : Parser Tree := do
  require (← nextIs fun c => c != '<' && c != '\x7b')
  leaf "jsx_text" (takeWhile fun c => c != '<' && c != '\x7b')

/-- Takes the end of an element with the given name. -/
def closing : Parser Unit := do
  exactly "<"
  sign "/"
  let _ ← optional elementName
  sign ">"

def children (p : Rules Part) : Parser (List Tree) := do
  let found ← many do
    require (!(← follows (do exactly "<"; sign "/")))
    firstOf [markupText, do require (← lookingAt "\x7b"); embedded p, p .markup]
  closing
  return found

def markupRule (d : Dialect) (p : Rules Part) : Parser Tree := do
  skip
  nodeOf do
    exactly "<"
    if ← signAhead ">" then do
      sign ">"
      return ("jsx_fragment", ← children p)
    else do
      let name ← elementName
      let generics ← optional (do require d.typed; typeArguments p)
      let attributes ← many (attribute_ p)
      let head := name.inField "name" :: generics.toList ++ attributes
      if ← signAhead "/" then do
        sign "/"
        sign ">"
        return ("jsx_self_closing_element", head)
      else do
        sign ">"
        return ("jsx_element", head ++ (← children p))

end CodeRetrieval.Grammar.Script
