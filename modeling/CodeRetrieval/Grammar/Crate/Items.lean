import CodeRetrieval.Grammar.Crate.Expressions

/-!
# Items and statements of crates

Functions, structures, enumerations, traits, implementations and modules, and the blocks
that make up their bodies. Attributes stand beside the item that they describe, its
visibility is part of it.
-/

namespace CodeRetrieval.Grammar.Crate

open Syntax

/-! ## Functions -/

/-- Takes who may use an item. -/
def visibility : Parser Unit := do
  let _ ← optional do
    firstOf [keyword "pub", do keyword "crate"; require (!(← signAhead "::"))]
    let _ ← optional do
      require (← follows (do
        sign "("
        firstOf [keyword "crate", keyword "self", keyword "super", keyword "in"]))
      tokenTree

def functionModifiers : Parser Unit := do
  let _ ← many do
    firstOf
      [keyword "const", keyword "async", keyword "unsafe", keyword "default", keyword "gen",
       do
        keyword "extern"
        let _ ← optional text]

def function (p : Rules Part) : Parser Tree := do
  skip
  nodeOf do
    visibility
    functionModifiers
    keyword "fn"
    let n ← name "identifier"
    let generics ← typeParameters p
    let parameters ← listOf "(" ")" (parameter p)
    let result ← optional (do sign "->"; p .type)
    let conditions ← whereClause p
    let head := n.inField "name" :: generics ++ parameters ++ result.toList ++ conditions
    if ← signAhead ";" then do
      take 1
      return ("function_signature_item", head)
    else return ("function_item", head ++ [(← p .block).inField "body"])

/-! ## Types -/

def namedFields (p : Rules Part) : Parser (List Tree) :=
  listOf "\x7b" "\x7d" <| tree "field_declaration" do
    attributes
    visibility
    let n ← name "field_identifier"
    sign ":"
    return [n.inField "name", (← p .type).inField "type"]

/-- Fields of a structure that are known by their place. -/
def placedFields (p : Rules Part) : Parser (List Tree) :=
  listOf "(" ")" (do attributes; visibility; p .type)

def structure_ (p : Rules Part) : Parser Tree := do
  skip
  nodeOf do
    visibility
    let w ← peekWord
    require (w == "struct" || w == "union")
    keyword w
    let n ← name "type_identifier"
    let generics ← typeParameters p
    let above ← whereClause p
    let fields ← optional (firstOf [namedFields p, placedFields p])
    let below ← whereClause p
    let _ ← optional (sign ";")
    return (w ++ "_item", n.inField "name" :: generics ++ above ++ fields.getD [] ++ below)

def variant (p : Rules Part) : Parser Tree :=
  tree "enum_variant" do
    attributes
    visibility
    let n ← name "identifier"
    let fields ← optional (firstOf [namedFields p, placedFields p])
    let value ← optional (do sign "="; p (.expression true))
    return n.inField "name" :: fields.getD [] ++ value.toList

def enumeration (p : Rules Part) : Parser Tree :=
  tree "enum_item" do
    visibility
    keyword "enum"
    let n ← name "type_identifier"
    let generics ← typeParameters p
    let conditions ← whereClause p
    let variants ← listOf "\x7b" "\x7d" (variant p)
    return n.inField "name" :: generics ++ conditions ++ variants

def itemBlock (p : Rules Part) : Parser Tree :=
  tree "declaration_list" do
    sign "\x7b"
    attributes
    let found ← many do
      require (!(← signAhead "\x7d"))
      attributes
      let t ← p .item
      attributes
      return t
    sign "\x7d"
    return found

/-- Takes the end of an item without a body, or reads its body. -/
def optionalItemBlock (p : Rules Part) : Parser (List Tree) := do
  if ← signAhead ";" then do
    take 1
    return []
  else return [(← itemBlock p).inField "body"]

def trait (p : Rules Part) : Parser Tree :=
  tree "trait_item" do
    visibility
    let _ ← optional (keyword "unsafe")
    let _ ← optional (keyword "auto")
    keyword "trait"
    let n ← name "type_identifier"
    let generics ← typeParameters p
    let above ← optional (do sign ":"; bounds p)
    let conditions ← whereClause p
    return n.inField "name" :: generics ++ above.getD [] ++ conditions ++
      [(← itemBlock p).inField "body"]

/-- An implementation of a trait for a type, or of a type's own methods. -/
def implementation (p : Rules Part) : Parser Tree :=
  tree "impl_item" do
    let _ ← optional (keyword "default")
    let _ ← optional (keyword "unsafe")
    keyword "impl"
    let generics ← typeParameters p
    let _ ← optional (keyword "const")
    let trait ← optional do
      let _ ← optional (sign "!")
      let t ← p .type
      keyword "for"
      return t
    let type ← p .type
    let conditions ← whereClause p
    let body ← optionalItemBlock p
    return generics ++ (trait.map (·.inField "trait")).toList ++
      type.inField "type" :: conditions ++ body

/-! ## Other items -/

def module_ (p : Rules Part) : Parser Tree :=
  tree "mod_item" do
    visibility
    keyword "mod"
    let n ← name "identifier"
    return n.inField "name" :: (← optionalItemBlock p)

/-- Functions and variables that are defined elsewhere. -/
def foreignModule (p : Rules Part) : Parser Tree :=
  tree "foreign_mod_item" do
    visibility
    let _ ← optional (keyword "unsafe")
    keyword "extern"
    let _ ← optional text
    return [← itemBlock p]

def toSemicolon : Parser Unit := do
  pattern (signAhead ";")
  sign ";"

/-- Names that are brought in from elsewhere. -/
def use : Parser Tree :=
  tree "use_declaration" do
    visibility
    firstOf [keyword "use", do keyword "extern"; keyword "crate"]
    toSemicolon
    return []

def valueItem (p : Rules Part) : Parser Tree := do
  skip
  nodeOf do
    visibility
    let _ ← optional (keyword "default")
    let w ← peekWord
    require (w == "const" || w == "static" || w == "type")
    keyword w
    let _ ← optional (keyword "ref")
    let _ ← optional (keyword "mut")
    let n ← name "identifier"
    let generics ← typeParameters p
    let type ← optional do
      sign ":"
      if w == "type" then bounds p else return [← p .type]
    let above ← whereClause p
    let value ← optional do
      sign "="
      if w == "type" then p .type else p (.expression true)
    let below ← whereClause p
    sign ";"
    return (w ++ "_item", n.inField "name" :: generics ++ type.getD [] ++ above ++
      value.toList ++ below)

def macroDefinition : Parser Tree :=
  tree "macro_definition" do
    keyword "macro_rules"
    sign "!"
    let n ← name "identifier"
    let rules ← tokenTree
    let _ ← optional (sign ";")
    return [n.inField "name", rules]

def macroItem (p : Rules Part) : Parser Tree :=
  tree "macro_invocation" do
    let _ ← path p
    sign "!"
    let _ ← optional (name "identifier")
    let given ← tokenTree
    let _ ← optional (sign ";")
    return [given]

def itemRule (p : Rules Part) : Parser Tree := do
  if ← signAhead ";" then leaf "empty_statement" (take 1)
  else
    firstOf
      [function p, structure_ p, enumeration p, trait p, implementation p, module_ p,
       foreignModule p, use, valueItem p, macroDefinition, macroItem p]

/-! ## Statements -/

def itemWords : List String :=
  ["pub", "crate", "fn", "struct", "union", "enum", "trait", "auto", "impl", "mod", "use",
   "extern", "const", "static", "type", "unsafe", "async", "default", "gen", "macro_rules"]

def letDeclaration (p : Rules Part) : Parser Tree :=
  tree "let_declaration" do
    keyword "let"
    pattern do
      if ← signAhead "::" then return false
      else if ← signAhead "==" then return false
      else charAhead fun c => c == ':' || c == '=' || c == ';'
    let type ← optional (do sign ":"; p .type)
    let value ← optional (do sign "="; p (.expression true))
    let otherwise ← optional (do keyword "else"; p .block)
    sign ";"
    return type.toList ++ value.toList ++ otherwise.toList

/-- An expression that ends with a block as a statement. A selection from it makes it a
part of a longer one. -/
def closedStatement (p : Rules Part) : Parser Tree := do
  let t ← closedExpression p
  require (!(← charAhead fun c => c == '.' || c == '?'))
  return t

def bracedMacro (p : Rules Part) : Parser Tree :=
  tree "macro_invocation" do
    let _ ← path p
    sign "!"
    require (← signAhead "\x7b")
    let given ← tokenTree
    require (!(← charAhead fun c => c == '.' || c == '?'))
    return [given]

def statementRule (p : Rules Part) : Parser Tree := do
  attributes
  if ← signAhead ";" then leaf "empty_statement" (take 1)
  else
    let w ← peekWord
    firstOf
      [do
        require (itemWords.contains w)
        firstOf
          [function p, structure_ p, enumeration p, trait p, implementation p, module_ p,
           foreignModule p, use, valueItem p, macroDefinition],
       do
        require (w == "let")
        letDeclaration p,
       closedStatement p,
       bracedMacro p,
       tree "expression_statement" (do
        let t ← p (.expression true)
        if !(← signAhead "\x7d") then sign ";"
        return [t])]

def blockRule (p : Rules Part) : Parser Tree :=
  tree "block" do
    exactly "\x7b"
    attributes
    let statements ← many (do require (!(← signAhead "\x7d")); p .statement)
    sign "\x7d"
    return statements

/-! ## Files -/

def rules (p : Rules Part) : Rules Part
  | .statement => statementRule p
  | .block => blockRule p
  | .expression literals => expressionRule p literals
  | .unary literals => unaryRule p literals
  | .type => typeRule p
  | .item => itemRule p

inductive Start where
  | file
  | inner (part : Part)

def fileRules (p : Rules Start) : Rules Start
  | .inner part => rules (fun q => p (.inner q)) part
  | .file =>
    node "source_file" do
      if (← lookingAt "#!") && !(← lookingAt "#![") then takeWhile (· != '\n')
      let found ← many do
        attributes
        firstOf [p (.inner .item), p (.inner .statement)]
      attributes
      skip
      return found

def parse (s : String) : Option Tree :=
  parseWith fileRules .file s

end CodeRetrieval.Grammar.Crate
