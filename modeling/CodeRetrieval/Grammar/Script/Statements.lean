import CodeRetrieval.Grammar.Script.Markup

/-!
# Statements of script languages

Declarations of functions, classes, types and variables, and the statements that hold
them. A statement may end with a semicolon; where it does not, it ends with the last
part that fits.
-/

namespace CodeRetrieval.Grammar.Script

open Syntax

/-! ## Class bodies -/

/-- Words that may stand before a member of a class. -/
def memberModifiers : List String :=
  ["declare", "public", "private", "protected", "static", "override", "readonly",
   "abstract", "accessor", "async", "get", "set"]

def methodOrField (d : Dialect) (p : Rules Part) (decorators : List Tree) :
    Parser (String × List Tree) := do
  let modifiers ← many (modifier memberModifiers)
  let _ ← optional (sign "*")
  let name ← memberName p
  let _ ← optional (firstOf [sign "?", sign "!"])
  if ← callSignatureAhead d then do
    let signature ← callSignature d p
    let body ← optionalBody p
    let type :=
      if !body.isEmpty then "method_definition"
      else if modifiers.contains "abstract" then "abstract_method_signature"
      else "method_signature"
    return (type, decorators ++ name.inField "name" :: signature ++ body)
  else do
    let type ← typeAnnotation d p
    let value ← optional (do sign "="; p .assignment)
    let field := if d.typed then "name" else "property"
    return (if d.typed then "public_field_definition" else "field_definition",
      decorators ++ name.inField field :: type ++ (value.map (·.inField "value")).toList)

/-- A member of a class. In typed dialects decorators stand beside a method, in the
others they are part of it. -/
def classMember (d : Dialect) (p : Rules Part) : Parser Tree := do
  let _ ← many (sign ";")
  skip
  firstOf
    [tree "class_static_block"
      (do keyword "static"; require (← signAhead "\x7b"); return [← p .block]),
     do
      require d.typed
      indexSignature d p,
     if d.typed then
      node "class_member" do
        let decorators ← many (do skip; decorator p)
        skip
        return decorators ++ [← nodeOf (methodOrField d p [])]
     else
      nodeOf do
        let decorators ← many (do skip; decorator p)
        methodOrField d p decorators]

def classBodyRule (d : Dialect) (p : Rules Part) : Parser Tree :=
  tree "class_body" do
    exactly "\x7b"
    let members ← many (classMember d p)
    let _ ← many (sign ";")
    sign "\x7d"
    return members

/-! ## Declarations -/

def endStatement : Parser Unit := do
  let _ ← optional (sign ";")

def functionDeclaration (d : Dialect) (p : Rules Part) : Parser Tree := do
  skip
  nodeOf do
    let _ ← optional asyncFunction
    let (generator, name, signature, body) ← functionRest d p
    let some name := name | failure
    require (d.typed || !body.isEmpty)
    let type :=
      if body.isEmpty then "function_signature"
      else if generator then "generator_function_declaration"
      else "function_declaration"
    if body.isEmpty then endStatement
    return (type, name :: signature ++ body)

def classDeclaration (d : Dialect) (p : Rules Part) : Parser Tree := do
  skip
  nodeOf do
    let decorators ← many (do skip; decorator p)
    let abstract_ ← optional
        (do require d.typed; keyword "abstract"; require ((← peekWord) == "class"))
    let (name, rest) ← classRest d p (p .unary)
    let some name := name | failure
    return (if abstract_.isSome then "abstract_class_declaration" else "class_declaration",
      decorators ++ name :: rest)

def variableDeclarator (d : Dialect) (p : Rules Part) : Parser Tree :=
  tree "variable_declarator" do
    let target ← p .binding
    let _ ← optional (do require d.typed; sign "!")
    let type ← typeAnnotation d p
    let value ← optional (do require (!(← signAhead "=>")); sign "="; p .assignment)
    return target.inField "name" :: type ++ (value.map (·.inField "value")).toList

def declaringWord : Parser Unit := do
  match ← peekWord with
  | "const" => keyword "const"
  | "var" => keyword "var"
  | "let" => do
    keyword "let"
    require (← charAhead fun c => isWordStart c || c == '\x7b' || c == '[')
  | "using" => do
    keyword "using"
    require (!(← newlineAhead))
    let w ← peekWord
    require (w != "" && !(["in", "of", "instanceof"].contains w))
  | _ => failure

def declarators (d : Dialect) (p : Rules Part) : Parser (List Tree) := do
  declaringWord
  let first ← variableDeclarator d p
  let more ← many (do sign ","; variableDeclarator d p)
  return first :: more

def interfaceDeclaration (d : Dialect) (p : Rules Part) : Parser Tree :=
  tree "interface_declaration" do
    keyword "interface"
    let name ← word "type_identifier"
    let generics ← optionalTypeParameters d p
    let above ← optional do
      keyword "extends"
      let first ← p .type
      let more ← many (do sign ","; p .type)
      return first :: more
    let body ← objectType d p
    return name.inField "name" :: generics ++ above.getD [] ++ [body.inField "body"]

def typeAlias (d : Dialect) (p : Rules Part) : Parser Tree :=
  tree "type_alias_declaration" do
    keyword "type"
    require (!(← newlineAhead))
    let name ← word "type_identifier"
    let generics ← optionalTypeParameters d p
    sign "="
    let value ← p .type
    endStatement
    return name.inField "name" :: generics ++ [value.inField "value"]

def enumMember (p : Rules Part) : Parser Tree :=
  tree "enum_assignment" do
    let name ← memberName p
    return name.inField "name" :: (← defaultValue p)

def enumDeclaration (p : Rules Part) : Parser Tree :=
  tree "enum_declaration" do
    let _ ← optional (keyword "const")
    keyword "enum"
    let name ← word "identifier"
    let members ← listOf "\x7b" "\x7d" (enumMember p)
    return name.inField "name" :: members

def moduleDeclaration (p : Rules Part) : Parser Tree :=
  tree "internal_module" do
    let w ← peekWord
    require (w == "namespace" || w == "module")
    take w.length
    require (!(← newlineAhead))
    let first ← firstOf [word "identifier", quoted]
    let more ← many (do sign "."; word "identifier")
    let body ← optional (do require (← signAhead "\x7b"); p .block)
    endStatement
    return first :: more ++ body.toList

/-- Declarations that only typed dialects have. -/
def typedDeclaration (d : Dialect) (p : Rules Part) : Parser Tree := do
  require d.typed
  match ← peekWord with
  | "interface" => interfaceDeclaration d p
  | "type" => typeAlias d p
  | "enum" => enumDeclaration p
  | "const" => enumDeclaration p
  | "abstract" => classDeclaration d p
  | "namespace" => moduleDeclaration p
  | "module" => moduleDeclaration p
  | "declare" =>
    tree "ambient_declaration" do
      keyword "declare"
      require (!(← newlineAhead))
      if (← peekWord) == "global" then do
        keyword "global"
        return [← p .block]
      else do
        require ((← peekWord) != "")
        return [← p .statement]
  | _ => failure

/-! ## Imports and exports -/

def nameList : Parser Unit := do
  sign "\x7b"
  let _ ← many (firstOf [sign ",", do let _ ← word "identifier", do let _ ← quoted])
  sign "\x7d"

def fromModule : Parser Unit := do
  let _ ← quoted
  let _ ← optional do
    firstOf [keyword "with", keyword "assert"]
    sign "\x7b"
    let _ ← many (firstOf [sign ",", sign ":", do
        let _ ← word "identifier", do let _ ← quoted])
    sign "\x7d"

def importedNames : Parser Unit := do
  let named := firstOf [nameList, do sign "*"; keyword "as"; let _ ← word "identifier"]
  firstOf
    [do named; keyword "from",
     do
      let _ ← word "identifier"
      let _ ← optional (do sign ","; named)
      keyword "from"]

def importStatement (p : Rules Part) : Parser Tree :=
  tree "import_statement" do
    keyword "import"
    require (!(← charAhead fun c => c == '(' || c == '.'))
    let alias_ : Parser (List Tree) := do
      let _ ← word "identifier"
      sign "="
      let _ ← optional (do keyword "require"; let _ ← listOf "(" ")" quoted)
      let _ ← optional (p .type)
      return []
    let plain : Parser (List Tree) := do
      let _ ← optional importedNames
      fromModule
      return []
    let some ts ← optional (firstOf [plain, alias_]) |
      do
        let _ ← word "type"
        let ts ← firstOf [plain, alias_]
        endStatement
        return ts
    endStatement
    return ts

def defaultExport (d : Dialect) (p : Rules Part) : Parser Tree := do
  keyword "default"
  firstOf
    [functionDeclaration d p,
     classDeclaration d p,
     do
      require (d.typed && (← peekWord) == "interface")
      interfaceDeclaration d p,
     do
      let t ← p .assignment
      endStatement
      return t]

def exportStatement (d : Dialect) (p : Rules Part) : Parser Tree :=
  tree "export_statement" do
    let decorators ← many (do skip; decorator p)
    keyword "export"
    let names : Parser (List Tree) := do
      let _ ← optional (do require d.typed; keyword "type")
      firstOf
        [do
          nameList
          let _ ← optional (do keyword "from"; fromModule),
         do
          sign "*"
          let _ ← optional do
            keyword "as"
            firstOf [do let _ ← word "identifier", do let _ ← quoted]
          keyword "from"
          fromModule]
      endStatement
      return []
    let inner ← firstOf
      [do return [← defaultExport d p],
       names,
       do
        require d.typed
        sign "="
        let t ← p .expression
        endStatement
        return [t],
       do
        require d.typed
        keyword "as"
        keyword "namespace"
        let _ ← word "identifier"
        endStatement
        return [],
       do return [← p .statement]]
    return decorators ++ inner

/-! ## Statements -/

def parenthesized (p : Rules Part) : Parser (List Tree) :=
  listOf "(" ")" (p .expression)

def loopHead (d : Dialect) (p : Rules Part) : Parser (List Tree) := do
  sign "("
  let first ← optional (firstOf [declarators d p, do return [← p .expression]])
  let rest ← many do
    firstOf [sign ";", keyword "of", keyword "in"]
    return (← optional (p .expression)).toList
  sign ")"
  return first.getD [] ++ rest.flatten

def switchCase (p : Rules Part) : Parser Tree :=
  tree "switch_case" do
    let value ← firstOf
      [do keyword "case"; return [← p .expression],
       do keyword "default"; return []]
    sign ":"
    let body ← many do
      let w ← peekWord
      require (w != "case" &&
        (w != "default" || !(← follows (do keyword "default"; sign ":"))))
      p .statement
    return value ++ body

def wordStatement (d : Dialect) (p : Rules Part) (w : String) : Parser Tree :=
  match w with
  | "if" =>
    tree "if_statement" do
      keyword "if"
      let condition ← parenthesized p
      let yes ← p .statement
      let no ← optional (do keyword "else"; p .statement)
      return condition ++ yes :: no.toList
  | "for" =>
    tree "for_statement" do
      keyword "for"
      let _ ← optional (keyword "await")
      let head ← loopHead d p
      return head ++ [← p .statement]
  | "while" =>
    tree "while_statement" do
      keyword "while"
      let condition ← parenthesized p
      return condition ++ [← p .statement]
  | "do" =>
    tree "do_statement" do
      keyword "do"
      let body ← p .statement
      keyword "while"
      let condition ← parenthesized p
      endStatement
      return body :: condition
  | "switch" =>
    tree "switch_statement" do
      keyword "switch"
      let value ← parenthesized p
      sign "\x7b"
      let cases ← many (switchCase p)
      sign "\x7d"
      return value ++ cases
  | "try" =>
    tree "try_statement" do
      keyword "try"
      let body ← p .block
      let handler ← optional do
        keyword "catch"
        let caught ← optional (listOf "(" ")" (parameter d p))
        return caught.getD [] ++ [← p .block]
      let last ← optional (do keyword "finally"; p .block)
      return body :: handler.getD [] ++ last.toList
  | "return" => ended "return_statement" "return"
  | "throw" => ended "throw_statement" "throw"
  | "break" => ended "break_statement" "break"
  | "continue" => ended "continue_statement" "continue"
  | "debugger" => ended "debugger_statement" "debugger"
  | "with" =>
    tree "with_statement" do
      keyword "with"
      let value ← parenthesized p
      return value ++ [← p .statement]
  | _ => failure
where
  /-- A word with an optional value on its line. -/
  ended (type w : String) : Parser Tree :=
    tree type do
      keyword w
      let value ← optional (do require (!(← newlineAhead)); p .expression)
      endStatement
      return value.toList

def statementRule (d : Dialect) (p : Rules Part) : Parser Tree := do
  skip
  if ← lookingAt "\x7b" then p .block
  else if ← lookingAt ";" then leaf "empty_statement" (take 1)
  else if ← lookingAt "@" then firstOf [exportStatement d p, classDeclaration d p]
  else do
    let w ← peekWord
    firstOf
      [do
        require (w != "")
        firstOf
          [wordStatement d p w,
           do require (w == "import"); importStatement p,
           do require (w == "export"); exportStatement d p,
           do require (w == "function" || w == "async"); functionDeclaration d p,
           do require (w == "class"); classDeclaration d p,
           typedDeclaration d p,
           tree "lexical_declaration" do
            let _ ← optional (do keyword "await"; require ((← peekWord) == "using"))
            let found ← declarators d p
            endStatement
            return found,
           tree "labeled_statement" do
            let label ← word "statement_identifier"
            sign ":"
            return [label, ← p .statement]],
       tree "expression_statement" do
        let value ← p .expression
        endStatement
        return [value]]

def blockRule (p : Rules Part) : Parser Tree :=
  tree "statement_block" do
    exactly "\x7b"
    let statements ← many (do require (!(← signAhead "\x7d")); p .statement)
    sign "\x7d"
    return statements

def rules (d : Dialect) (p : Rules Part) : Rules Part
  | .statement => statementRule d p
  | .block => blockRule p
  | .expression => expressionRule p
  | .assignment => assignmentRule d p
  | .unary => unaryRule d p
  | .binding => bindingRule p
  | .type => typeRule d p
  | .classBody => classBodyRule d p
  | .markup => markupRule d p

inductive Start where
  | program
  | inner (part : Part)

def programRules (d : Dialect) (p : Rules Start) : Rules Start
  | .inner part => rules d (fun q => p (.inner q)) part
  | .program =>
    node "program" do
      if ← lookingAt "#!" then takeWhile (· != '\n')
      let statements ← many (p (.inner .statement))
      skip
      return statements

def parse (d : Dialect) (s : String) : Option Tree :=
  parseWith (programRules d) .program s

end CodeRetrieval.Grammar.Script
