import CodeRetrieval.Grammar.Package.Expressions

/-!
# Declarations and statements of packages

Functions, methods with a receiver, types, and the statements that make up their bodies.
-/

namespace CodeRetrieval.Grammar.Package

open Syntax

/-! ## Declarations -/

/-- One declaration of a keyword, or several in parentheses. -/
def declared (w : String) (spec : Parser Tree) : Parser (List Tree) := do
  keyword w
  if ← signAhead "(" then terminated "(" ")" spec else return [← spec]

def valueSpec (p : Rules Part) : Parser Tree :=
  tree "value_spec" do
    let first ← name "identifier"
    let rest ← many (do sign ","; name "identifier")
    let type ← optional (do require (!(← newlineAhead)); p .type)
    let values ← optional (do sign "="; expressions p true)
    return first :: rest ++ type.toList ++ values.getD []

def typeSpec (p : Rules Part) : Parser Tree := do
  skip
  nodeOf do
    let n ← name "type_identifier"
    let (generics, alias_, type) ← firstOf
      [do
        let g ← typeParameters p
        let a ← optional (sign "=")
        return ([g], a.isSome, ← p .type),
       do
        let a ← optional (sign "=")
        return ([], a.isSome, ← p .type)]
    return (if alias_ then "type_alias" else "type_spec",
      n.inField "name" :: generics ++ [type])

def importSpec : Parser Tree :=
  tree "import_spec" do
    let _ ← optional (firstOf [sign ".", do let _ ← name "package_identifier"])
    return [← quotedText]

def declaration (p : Rules Part) : Parser Tree := do
  match ← peekWord with
  | "var" => tree "var_declaration" (declared "var" (valueSpec p))
  | "const" => tree "const_declaration" (declared "const" (valueSpec p))
  | "type" => tree "type_declaration" (declared "type" (typeSpec p))
  | _ => failure

def optionalBody (p : Rules Part) : Parser (List Tree) := do
  if !(← newlineAhead) && (← lookingAt "\x7b") then
    return [(← p .block).inField "body"]
  else return []

def functionDeclaration (p : Rules Part) : Parser Tree := do
  skip
  nodeOf do
    keyword "func"
    let receiver ← optional (parameters p)
    let n ← name (if receiver.isSome then "field_identifier" else "identifier")
    let generics ← optional (typeParameters p)
    let head ← signature p
    let body ← optionalBody p
    return (if receiver.isSome then "method_declaration" else "function_declaration",
      (receiver.map (·.inField "receiver")).toList ++ n.inField "name" ::
        generics.toList ++ head ++ body)

/-! ## Statements -/

def assignedValues (p : Rules Part) (literals : Bool) : Parser (List Tree) := do
  let _ ← optional (keyword "range")
  expressions p literals

/-- A statement without a word of its own: an expression, an assignment, a count, or a
value sent to a channel. -/
def simpleStatement (p : Rules Part) (literals : Bool) : Parser Tree :=
  tree "simple_statement" do
    let first ← assignedValues p literals
    let rest ← optional do
      require (!(← newlineAhead))
      let c ← get
      if c.startsWith ['+', '+'] 0 || c.startsWith ['-', '-'] 0 then do
        take 2
        return []
      else if c.startsWith ['<', '-'] 0 then do
        take 2
        return [← p (.expression literals)]
      else do
        match assignmentSigns.find? fun s => c.startsWith s.toList 0 with
        | some s => take s.length
        | none => exactly "="
        assignedValues p literals
    return first ++ rest.getD []

/-- The head of a statement: simple statements with semicolons between them, up to the
block. -/
def head (p : Rules Part) : Parser (List Tree) := do
  let parts ← many do
    firstOf
      [do sign ";"; return [],
       do return [← simpleStatement p false]]
  return parts.flatten

/-- A case of a choice, with the values, types or communications it stands for. -/
def caseClause (p : Rules Part) : Parser Tree :=
  let choice := firstOf
    [do
      let t ← simpleStatement p true
      require (← charAhead fun c => c == ',' || c == ':')
      return t,
     p .type]
  tree "case_clause" do
    let values ← firstOf
      [do
        keyword "case"
        let first ← choice
        let rest ← many (do sign ","; choice)
        return first :: rest,
       do keyword "default"; return []]
    sign ":"
    let body ← many do
      let w ← peekWord
      require (w != "case" && w != "default")
      p .statement
    return values ++ body

def choiceStatement (p : Rules Part) (w : String) : Parser Tree :=
  tree (w ++ "_statement") do
    keyword w
    let values ← head p
    sign "\x7b"
    let cases ← many (caseClause p)
    sign "\x7d"
    return values ++ cases

def wordStatement (p : Rules Part) (w : String) : Parser Tree :=
  tree (w ++ "_statement") do
    keyword w
    let values ← optional (do require (!(← newlineAhead)); expressions p true)
    return values.getD []

def ifStatement (p : Rules Part) : Parser Tree :=
  tree "if_statement" do
    keyword "if"
    let condition ← head p
    let yes ← p .block
    let no ← optional do
      keyword "else"
      if (← peekWord) == "if" then p .statement else p .block
    return condition ++ yes :: no.toList

def forStatement (p : Rules Part) : Parser Tree :=
  tree "for_statement" do
    keyword "for"
    let values ← head p
    return values ++ [← p .block]

/-- A statement with a label. The label stands before a colon that starts no assignment. -/
def labeledStatement (p : Rules Part) : Parser Tree :=
  tree "labeled_statement" do
    let label ← name "label_name"
    require (!(← signAhead ":="))
    sign ":"
    return label :: (← optional (p .statement)).toList

def openStatement (p : Rules Part) : Parser Tree := do
  skip
  if ← lookingAt "\x7b" then p .block
  else
    match ← peekWord with
    | "if" => ifStatement p
    | "for" => forStatement p
    | "switch" => choiceStatement p "switch"
    | "select" => choiceStatement p "select"
    | "func" => firstOf [functionDeclaration p, simpleStatement p true]
    | "fallthrough" => leaf "fallthrough_statement" (keyword "fallthrough")
    | "package" =>
        tree "package_clause" (do keyword "package"; return [← name "package_identifier"])
    | "import" => tree "import_declaration" (declared "import" importSpec)
    | w =>
      if ["var", "const", "type"].contains w then declaration p
      else if ["go", "defer", "return", "break", "continue", "goto"].contains w then
        wordStatement p w
      else firstOf [labeledStatement p, simpleStatement p true]

def statementRule (p : Rules Part) : Parser Tree := do
  if ← signAhead ";" then leaf "empty_statement" (take 1)
  else do
    let t ← openStatement p
    if ← signAhead ";" then modify fun c => { c.step with stop := c.stop }
    return t

def blockRule (p : Rules Part) : Parser Tree :=
  tree "block" do
    exactly "\x7b"
    let statements ← many (do require (!(← signAhead "\x7d")); p .statement)
    sign "\x7d"
    return statements

/-! ## Files -/

def rules (p : Rules Part) : Rules Part
  | .statement => statementRule p
  | .block => blockRule p
  | .expression literals => expressionRule p literals
  | .unary literals => unaryRule p literals
  | .literalValue => literalValueRule p
  | .type => typeRule p

inductive Start where
  | file
  | inner (part : Part)

def fileRules (p : Rules Start) : Rules Start
  | .inner part => rules (fun q => p (.inner q)) part
  | .file =>
    node "source_file" do
      let found ← many (p (.inner .statement))
      skip
      return found

def parse (s : String) : Option Tree :=
  parseWith fileRules .file s

end CodeRetrieval.Grammar.Package
