import CodeRetrieval.Grammar.Indented.Expressions

/-!
# Statements of indented languages

Simple statements share a line, separated by semicolons. A compound statement has a
suite behind each of its colons: the rest of the line, or a block of lines that are
indented further.
-/

namespace CodeRetrieval.Grammar.Indented

open Syntax

/-! ## Simple statements -/

/-- An import. Its names are no calls, so that they are only passed over. -/
def importStatement : Parser Tree :=
  tree "import_statement" do
    firstOf [keyword "import", keyword "from"]
    let piece : Parser Unit := do
      if (← peekWord) != "" then do let _ ← name
      else firstOf [sign ".", sign ",", sign "*"]
    let _ ← many do
      if ← signAhead "(" then do
        let _ ← bracketed "(" ")" [","] (leaf "dotted_name" piece) (pure [])
      else piece
    return []

def wordStatement (p : Rules Part) (w : String) : Parser Tree :=
  tree (w ++ "_statement") do
    keyword w
    let found ← optional (elements p)
    let cause ← optional (do keyword "from"; p .expression)
    return found.getD [] ++ cause.toList

def typeAlias (p : Rules Part) : Parser Tree :=
  tree "type_alias_statement" do
    keyword "type"
    let n ← name
    let parameters ← optional (bracketed "[" "]" [","] (parameter p true) (pure []))
    sign "="
    return n :: parameters.getD [] ++ [← p .expression]

/-- Takes a sign behind which a variable gets its value. -/
def assignmentSign : Parser Unit := do
  skip
  let c ← get
  match updateSigns.find? fun s => c.startsWith s.toList 0 with
  | some s => take s.length
  | none => exactly "="

def expressionStatement (p : Rules Part) : Parser Tree :=
  tree "expression_statement" do
    let first ← values p
    let type ← optional (do sign ":"; p .expression)
    let assigned ← many (do assignmentSign; values p)
    return first ++ type.toList ++ assigned.flatten

/-- A word that prints or runs values without brackets around them. -/
def bareCommand (p : Rules Part) : Parser Tree :=
  tree "print_statement" do
    firstOf [keyword "print", keyword "exec"]
    elements p

def simpleStatement (p : Rules Part) : Parser Tree := do
  match ← peekWord with
  | "import" => importStatement
  | "from" => importStatement
  | "type" => firstOf [typeAlias p, expressionStatement p]
  | "print" => endingAtLine
  | "exec" => endingAtLine
  | w =>
    if ["pass", "break", "continue", "return", "raise", "del", "assert", "global",
        "nonlocal"].contains w then
      wordStatement p w
    else expressionStatement p
where
  /-- An expression up to the end of the statement, or else a command without brackets. -/
  endingAtLine : Parser Tree :=
    firstOf
      [do
        let t ← expressionStatement p
        require ((← atLineEnd) || (← lookingAt ";"))
        return t,
       bareCommand p]

def simpleStatements (p : Rules Part) : Parser (List Tree) := do
  let first ← simpleStatement p
  let rest ← many do
    sign ";"
    if ← atLineEnd then return [] else return [← simpleStatement p]
  require (← atLineEnd)
  return first :: rest.flatten

/-! ## Suites -/

def suiteRule (p : Rules Part) (indent : Nat) : Parser Tree := do
  if ← atLineEnd then do
    match ← optional (startLine fun k => decide (indent < k)) with
    | none => group "block" []
    | some inner =>
      node "block" do
        let first ← p (.statement inner)
        let rest ← many do
          let _ ← startLine fun k => decide (inner ≤ k)
          p (.statement inner)
        closeBlock inner
        return first :: rest
  else tree "block" (simpleStatements p)

def body (p : Rules Part) (indent : Nat) : Parser Tree := do
  sign ":"
  p (.suite indent)

/-- A further part of a compound statement, on a line of its own that starts with the
word `w`. -/
def furtherPart (p : Rules Part) (indent : Nat) (w : String) (head : Parser (List Tree)) :
    Parser (List Tree) := do
  let _ ← startLine fun k => decide (indent ≤ k)
  keyword w
  let found ← head
  return found ++ [← body p indent]

def elsePart (p : Rules Part) (indent : Nat) : Parser (List Tree) := do
  return (← optional (furtherPart p indent "else" (pure []))).getD []

/-! ## Definitions -/

def typeParameters (p : Rules Part) : Parser (List Tree) := do
  return (← optional (bracketed "[" "]" [","] (parameter p true) (pure []))).getD []

def functionDefinition (p : Rules Part) (indent : Nat) : Parser Tree :=
  tree "function_definition" do
    let _ ← optional (keyword "async")
    keyword "def"
    let n ← name
    let generics ← typeParameters p
    let parameters ← bracketed "(" ")" [","] (parameter p true) (pure [])
    let result ← optional (do sign "->"; p .expression)
    return n.inField "name" :: generics ++ parameters ++ result.toList ++
      [(← body p indent).inField "body"]

def classDefinition (p : Rules Part) (indent : Nat) : Parser Tree :=
  tree "class_definition" do
    keyword "class"
    let n ← name
    let generics ← typeParameters p
    let above ← optional (arguments p)
    return n.inField "name" :: generics ++ above.toList ++
      [(← body p indent).inField "body"]

def decoratedDefinition (p : Rules Part) (indent : Nat) : Parser Tree :=
  tree "decorated_definition" do
    let decorators ← many do
      let t ← tree "decorator" (do sign "@"; return [← p .expression])
      let _ ← startLine fun k => decide (indent ≤ k)
      return t
    let inner ← firstOf [functionDefinition p indent, classDefinition p indent]
    return decorators ++ [inner.inField "definition"]

/-! ## Compound statements -/

/-- Values that are entered, each with the name it gets, up to the suite. -/
def withStatement (p : Rules Part) (indent : Nat) : Parser Tree :=
  tree "with_statement" do
    keyword "with"
    let entered ← elements p
    return entered ++ [← body p indent]

def ifStatement (p : Rules Part) (indent : Nat) : Parser Tree :=
  tree "if_statement" do
    keyword "if"
    let condition ← p .expression
    let yes ← body p indent
    let others ← many (furtherPart p indent "elif" (do return [← p .expression]))
    return condition :: yes :: others.flatten ++ (← elsePart p indent)

def whileStatement (p : Rules Part) (indent : Nat) : Parser Tree :=
  tree "while_statement" do
    keyword "while"
    let condition ← p .expression
    let repeated ← body p indent
    return condition :: repeated :: (← elsePart p indent)

def forStatement (p : Rules Part) (indent : Nat) : Parser Tree :=
  tree "for_statement" do
    keyword "for"
    let bound ← targets p
    keyword "in"
    let found ← elements p
    let repeated ← body p indent
    return bound ++ found ++ repeated :: (← elsePart p indent)

def tryStatement (p : Rules Part) (indent : Nat) : Parser Tree :=
  tree "try_statement" do
    keyword "try"
    let tried ← body p indent
    let handlers ← many do
      furtherPart p indent "except" do
        let _ ← optional (sign "*")
        return (← optional (elements p)).getD []
    let otherwise ← elsePart p indent
    let last ← optional (furtherPart p indent "finally" (pure []))
    return tried :: handlers.flatten ++ otherwise ++ last.getD []

/-- A case of a choice by patterns. Nothing in a pattern is a call, so that a pattern
leaves no trees. -/
def caseClause (p : Rules Part) (indent : Nat) : Parser Tree :=
  tree "case_clause" do
    keyword "case"
    let pattern := do
      let _ ← optional (sign "*")
      let _ ← p .disjunction
      let _ ← optional (do keyword "as"; name)
    pattern
    let _ ← many (do sign ","; let _ ← optional pattern)
    let guard ← optional (do keyword "if"; p .expression)
    return guard.toList ++ [← body p indent]

def matchStatement (p : Rules Part) (indent : Nat) : Parser Tree :=
  tree "match_statement" do
    keyword "match"
    let subject ← elements p
    sign ":"
    let inner ← startLine fun k => decide (indent < k)
    let first ← caseClause p inner
    let rest ← many do
      let _ ← startLine fun k => decide (inner ≤ k)
      caseClause p inner
    closeBlock inner
    return subject ++ first :: rest

def statementRule (p : Rules Part) (indent : Nat) : Parser Tree := do
  if ← signAhead "@" then decoratedDefinition p indent
  else
    match ← peekWord with
    | "def" => functionDefinition p indent
    | "class" => classDefinition p indent
    | "if" => ifStatement p indent
    | "while" => whileStatement p indent
    | "for" => forStatement p indent
    | "try" => tryStatement p indent
    | "with" => withStatement p indent
    | "async" =>
      firstOf
        [functionDefinition p indent,
         tree "async_statement" (do
          keyword "async"
          return [← firstOf [forStatement p indent, withStatement p indent]]),
         tree "line" (simpleStatements p)]
    | "match" => firstOf [matchStatement p indent, tree "line" (simpleStatements p)]
    | _ => tree "line" (simpleStatements p)

/-! ## Modules -/

def rules (p : Rules Part) : Rules Part
  | .statement indent => statementRule p indent
  | .suite indent => suiteRule p indent
  | .expression => expressionRule p
  | .disjunction => disjunctionRule p
  | .unary => unaryRule p
  | .interpolation => interpolationRule p

inductive Start where
  | module
  | inner (part : Part)

def moduleRules (p : Rules Start) : Rules Start
  | .inner part => rules (fun q => p (.inner q)) part
  | .module =>
    node "module" do
      modify fun c => (nextLine c).1
      let first ← optional (p (.inner (.statement 0)))
      let rest ← many do
        let _ ← startLine fun _ => true
        p (.inner (.statement 0))
      modify fun c => (nextLine c).1
      return first.toList ++ rest

def parse (s : String) : Option Tree :=
  parseWith moduleRules .module s

end CodeRetrieval.Grammar.Indented
