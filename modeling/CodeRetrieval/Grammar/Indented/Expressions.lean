import CodeRetrieval.Grammar.Indented.Lexis

/-!
# Expressions of indented languages

Operands with what is called, selected and indexed from them. Operators between operands
bind equally, since cutting asks only which calls an expression holds and in which
order.
-/

namespace CodeRetrieval.Grammar.Indented

open Syntax

/-! ## Lists of values -/

/-- A value, possibly spread and possibly given a name behind `as`. -/
def element (p : Rules Part) : Parser Tree := do
  let _ ← optional (firstOf [sign "**", sign "*"])
  let value ← p .expression
  let alias_ ← optional (do keyword "as"; p .unary)
  group "element" (value :: alias_.toList)

def elements (p : Rules Part) : Parser (List Tree) := do
  let first ← element p
  let rest ← many (do sign ","; return (← optional (element p)).toList)
  return first :: rest.flatten

def yielded (p : Rules Part) : Parser Tree :=
  tree "yield" do
    keyword "yield"
    let _ ← optional (keyword "from")
    return (← optional (elements p)).getD []

def values (p : Rules Part) : Parser (List Tree) := do
  if (← peekWord) == "yield" then return [← yielded p] else elements p

/-- Places that values are assigned to, with commas between them. -/
def targets (p : Rules Part) : Parser (List Tree) := do
  let target := do
    let _ ← optional (sign "*")
    p .unary
  let first ← target
  let rest ← many (do sign ","; return (← optional target).toList)
  return first :: rest.flatten

def clause (p : Rules Part) : Parser (List Tree) :=
  firstOf
    [do
      let _ ← optional (keyword "async")
      keyword "for"
      let bound ← targets p
      keyword "in"
      return bound ++ [← p .disjunction],
     do
      keyword "if"
      return [← p .disjunction]]

def clauses (p : Rules Part) : Parser (List Tree) := do
  return (← many (clause p)).flatten

/-! ## Parameters and arguments -/

/-- A parameter with its type, unless types are not written here, and its default value.
A pattern in round brackets may stand for a name. -/
def parameter (p : Rules Part) (typed : Bool) : Parser Tree :=
  tree "parameter" do
    let starred ← optional (firstOf [sign "**", sign "*", sign "/"])
    let bound ← optional (firstOf [name, do require (← signAhead "("); p .expression])
    require (starred.isSome || bound.isSome)
    let type ← optional do
      require typed
      sign ":"
      let _ ← optional (sign "*")
      p .expression
    let value ← optional (do sign "="; p .expression)
    return bound.toList ++ type.toList ++ value.toList

/-- An argument of a call: a value, a value for a named parameter, or a comprehension. -/
def argument (p : Rules Part) : Parser Tree :=
  firstOf
    [tree "keyword_argument" (do
      let n ← name
      require (!(← signAhead "=="))
      sign "="
      return [n.inField "name", (← p .expression).inField "value"]),
     element p]

def arguments (p : Rules Part) : Parser Tree :=
  tree "argument_list" (bracketed "(" ")" [","] (argument p) (clauses p))

/-! ## Operands -/

def lambda (p : Rules Part) : Parser Tree :=
  tree "lambda" do
    keyword "lambda"
    let parameters ← many do
      let t ← parameter p false
      let _ ← optional (sign ",")
      return t
    sign ":"
    return parameters ++ [← p .expression]

def primary (p : Rules Part) : Parser Tree := do
  skip
  let c ← get
  if (opening? c).isSome then do
    let first ← text p
    let rest ← many do
      skip
      require (opening? (← get)).isSome
      text p
    group "concatenated_string" (first :: rest)
  else
    match c.peek? with
    | some '(' =>
      let item := do if (← peekWord) == "yield" then yielded p else element p
      tree "parenthesized_expression" (bracketed "(" ")" [","] item (clauses p))
    | some '[' => tree "list" (bracketed "[" "]" [","] (element p) (clauses p))
    | some '\x7b' =>
        tree "dictionary" (bracketed "\x7b" "\x7d" [",", ":"] (element p) (clauses p))
    | _ =>
      if ← lookingAt "..." then leaf "ellipsis" (take 3)
      else
        match ← peekWord with
        | "" => number
        | "lambda" => lambda p
        | w => do
          require (!reserved.contains w)
          name

/-- Extends an operand by one selection, index or call behind it. -/
def suffix (p : Rules Part) (t : Tree) : Parser Tree := do
  skip
  match (← get).peek? with
  | some '(' => do
    let given ← arguments p
    nodeFrom "call" t [t.inField "function", given.inField "arguments"]
  | some '[' => do
    let index ← bracketed "[" "]" [",", ":"] (element p) (pure [])
    nodeFrom "subscript" t (t.inField "value" :: index)
  | some '.' => do
    take 1
    let n ← name
    nodeFrom "attribute" t [t.inField "object", n.inField "attribute"]
  | _ => failure

/-- Takes one sign or word before an operand. -/
def prefixOperator : Parser Unit := do
  skip
  if ← nextIs fun c => c == '~' || c == '+' || c == '-' then take 1
  else
    firstOf
      [keyword "not",
       do
        keyword "await"
        skip
        require (← nextIs fun c => isWordPart c || "([\x7b\x22\x27-+~.".toList.contains c)]

/-- An operand with what stands before and behind it. An operand that is awaited may be
called like any other word. -/
def unaryRule (p : Rules Part) : Parser Tree :=
  firstOf
    [do
      let before ← many prefixOperator
      let first ← primary p
      let whole ← extend (suffix p) first
      if before.isEmpty then return whole else nodeFrom "unary_operator" whole [whole],
     do
      let first ← primary p
      extend (suffix p) first]

/-! ## Operators -/

def binarySigns : List String :=
  ["**", "//", "<<", ">>", "<=", ">=", "==", "!=", "<>", "+", "-", "*", "/", "%", "@",
   "&", "|", "^", "<", ">"]

def updateSigns : List String :=
  ["**=", "//=", "<<=", ">>=", "+=", "-=", "*=", "/=", "%=", "@=", "&=", "|=", "^="]

def binaryOperator : Parser Unit := do
  match ← peekWord with
  | "" => do
    let c ← get
    require (!updateSigns.any fun s => c.startsWith s.toList 0)
    match binarySigns.find? fun s => c.startsWith s.toList 0 with
    | some s => take s.length
    | none => failure
  | "and" => keyword "and"
  | "or" => keyword "or"
  | "in" => keyword "in"
  | "not" => do
    keyword "not"
    keyword "in"
  | "is" => do
    keyword "is"
    let _ ← optional (keyword "not")
  | _ => failure

def disjunctionRule (p : Rules Part) : Parser Tree := do
  let first ← p .unary
  let rest ← many (do binaryOperator; p .unary)
  group "boolean_operator" (first :: rest)

/-- A value, one of two values by a condition, or a value that is given a name on the
way. -/
def expressionRule (p : Rules Part) : Parser Tree := do
  let value ← p .disjunction
  if ← signAhead ":=" then do
    take 2
    nodeFrom "named_expression" value [value, ← p .expression]
  else if (← peekWord) == "if" then do
    let rest ← optional do
      keyword "if"
      let condition ← p .disjunction
      keyword "else"
      return [condition, ← p .expression]
    match rest with
    | some ts => nodeFrom "conditional_expression" value (value :: ts)
    | none => return value
  else return value

/-! ## Expressions in texts -/

/-- Reads the format of an interpolation, up to its brace. The number bounds its
characters. -/
def formatFrom (p : Rules Part) : Nat → List Tree → Parser (List Tree)
  | 0, _ => failure
  | n + 1, found => do
    match (← get).peek? with
    | none => failure
    | some '\x7d' => return found.reverse
    | some '\x7b' => do
      let inner ← p .interpolation
      formatFrom p n (inner :: found)
    | some _ => do
      take 1
      formatFrom p n found

/-- An expression in braces within a text, with its conversion and its format. -/
def interpolationRule (p : Rules Part) : Parser Tree :=
  node "interpolation" do
    exactly "\x7b"
    enterBrackets
    let found ← values p
    let _ ← optional (sign "=")
    let _ ← optional do
      sign "!"
      takeWhile isWordPart
    let format ← optional do
      sign ":"
      formatFrom p (← get).remaining []
    sign "\x7d"
    leaveBrackets
    return found ++ format.getD []

end CodeRetrieval.Grammar.Indented
