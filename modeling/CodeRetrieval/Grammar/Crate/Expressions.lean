import CodeRetrieval.Grammar.Crate.Types

/-!
# Expressions of crates

Operands with what is called, selected and indexed from them. Operators between operands
bind equally, since cutting asks only which calls an expression holds and in which
order. An expression that ends with a block is complete as a statement.
-/

namespace CodeRetrieval.Grammar.Crate

open Syntax

/-! ## Paths -/

def pathStep (p : Rules Part) (t : Tree) : Parser Tree := do
  sign "::"
  if ← signAhead "<" then
    nodeFrom "generic_function" t [t.inField "function", ← typeArguments p]
  else nodeFrom "scoped_identifier" t [t.inField "path",
    (← name "identifier").inField "name"]

def path (p : Rules Part) : Parser Tree := do
  let first ← firstOf
    [bracketedType p,
     tree "scoped_identifier" (do sign "::"; return [(← name "identifier").inField "name"]),
     do
      let w ← peekWord
      if ["self", "super", "crate"].contains w then lexicon.word w else name "identifier"]
  extend (pathStep p) first

/-- One field of a literal: a name with a value, a name alone, or the rest of another
value. -/
def literalField (p : Rules Part) : Parser Tree :=
  tree "field_initializer" do
    attributes
    if ← signAhead ".." then do
      take 2
      return (← optional (p (.expression true))).toList
    else do
      let _ ← firstOf [name "field_identifier", number]
      let value ← optional do
        require (!(← signAhead "::"))
        sign ":"
        p (.expression true)
      return value.toList

/-- A path, or what starts with one: the call of a macro, or a literal of a structure. -/
def pathOperand (p : Rules Part) (literals : Bool) : Parser Tree := do
  let t ← path p
  if (← signAhead "!") && !(← signAhead "!=") then do
    sign "!"
    nodeFrom "macro_invocation" t [← tokenTree]
  else if literals && (← signAhead "\x7b") then do
    let whole ← optional do
      let fields ← listOf "\x7b" "\x7d" (literalField p)
      nodeFrom "struct_expression" t fields
    return whole.getD t
  else return t

/-! ## Expressions with blocks -/

/-- The block of a condition that does not hold. -/
def elsePart (p : Rules Part) : Parser (List Tree) := do
  let no ← optional do
    keyword "else"
    if (← peekWord) == "if" then p (.unary false) else p .block
  return no.toList

def matchArm (p : Rules Part) : Parser Tree :=
  tree "match_arm" do
    attributes
    pattern do return (← signAhead "=>") || (← peekWord) == "if"
    let guard ← optional (do keyword "if"; p (.expression true))
    sign "=>"
    let value ← firstOf
      [do
        let b ← p .block
        require (!(← charAhead fun c => c == '.' || c == '?'))
        let _ ← optional (sign ",")
        return b,
       do
        let e ← p (.expression true)
        if !(← signAhead "\x7d") then sign ","
        return e]
    return guard.toList ++ [value]

def blockExpression (p : Rules Part) (w : String) : Parser Tree :=
  match w with
  | "if" =>
    tree "if_expression" do
      keyword "if"
      let condition ← p (.expression false)
      let yes ← p .block
      return condition :: yes :: (← elsePart p)
  | "match" =>
    tree "match_expression" do
      keyword "match"
      let value ← p (.expression false)
      sign "\x7b"
      attributes
      let arms ← many (do require (!(← signAhead "\x7d")); matchArm p)
      sign "\x7d"
      return value :: arms
  | "while" =>
    tree "while_expression" do
      keyword "while"
      let condition ← p (.expression false)
      return [condition, ← p .block]
  | "loop" =>
    tree "loop_expression" do
      keyword "loop"
      return [← p .block]
  | "for" =>
    tree "for_expression" do
      keyword "for"
      pattern do return (← peekWord) == "in"
      keyword "in"
      let values ← p (.expression false)
      return [values, ← p .block]
  | "unsafe" => marked "unsafe"
  | "const" => marked "const"
  | "try" => marked "try"
  | "async" =>
    tree "async_block" do
      keyword "async"
      let _ ← optional (keyword "move")
      require (← signAhead "\x7b")
      return [← p .block]
  | _ => failure
where
  /-- A block with a word before it. -/
  marked (w : String) : Parser Tree :=
    tree (w ++ "_block") do
      keyword w
      require (← signAhead "\x7b")
      return [← p .block]

def closedExpression (p : Rules Part) : Parser Tree := do
  let label ← optional do
    let l ← lifetime
    sign ":"
    return l
  let t ← if ← signAhead "\x7b" then p .block else blockExpression p (← peekWord)
  match label with
  | some l => nodeFrom "labeled_expression" l [t]
  | none => return t

/-! ## Operands -/

/-- A function without a name, with its parameters between bars. -/
def closure (p : Rules Part) (literals : Bool) : Parser Tree :=
  tree "closure_expression" do
    let _ ← optional forLifetimes
    let _ ← many (firstOf [keyword "static", keyword "async", keyword "move"])
    let given ← firstOf
      [do sign "||"; return [],
       listOf "|" "|" (parameter p)]
    if ← signAhead "->" then do
      take 2
      let result ← p .type
      return given ++ [result, ← p .block]
    else return given ++ [← p (.expression literals)]

/-- The values between square brackets, or one value with the number of its copies. -/
def arrayLiteral (p : Rules Part) : Parser Tree :=
  tree "array_expression" do
    sign "["
    let items ← many do
      require (!(← signAhead "]"))
      attributes
      let e ← p (.expression true)
      let _ ← optional (firstOf [sign ",", sign ";"])
      return e
    sign "]"
    return items

def leaving (p : Rules Part) (literals : Bool) (w : String) : Parser Tree :=
  tree (w ++ "_expression") do
    keyword w
    let _ ← optional (do let l ← lifetime; require (!(← signAhead ":")); return l)
    let value ← optional do
      require (literals || !(← signAhead "\x7b"))
      p (.expression literals)
    return value.toList

def letCondition (p : Rules Part) : Parser Tree :=
  tree "let_condition" do
    keyword "let"
    pattern do return (← signAhead "=") && !(← signAhead "==")
    sign "="
    return [← p (.unary false)]

def primary (p : Rules Part) (literals : Bool) : Parser Tree := do
  skip
  match (← get).peek? with
  | some '(' =>
      tree "tuple_expression" (listOf "(" ")" (do attributes; p (.expression true)))
  | some '[' => arrayLiteral p
  | some '\x7b' => p .block
  | some '|' => closure p literals
  | some '\x22' => text
  | some '\x27' => firstOf [character, closedExpression p]
  | some '<' => pathOperand p literals
  | some ':' => pathOperand p literals
  | _ =>
    match ← peekWord with
    | "" => number
    | "let" => letCondition p
    | "return" => leaving p literals "return"
    | "break" => leaving p literals "break"
    | "continue" => leaving p literals "continue"
    | "yield" => leaving p literals "yield"
    | "true" => lexicon.word "boolean_literal"
    | "false" => lexicon.word "boolean_literal"
    | w =>
      if ["if", "match", "while", "loop", "unsafe"].contains w then blockExpression p w
      else if ["for", "async", "const", "move", "static", "try"].contains w then
        firstOf [blockExpression p w, closure p literals, pathOperand p literals]
      else firstOf [text, character, pathOperand p literals]

def arguments (p : Rules Part) : Parser Tree :=
  tree "arguments" (listOf "(" ")" (do attributes; p (.expression true)))

def selected (p : Rules Part) (t : Tree) : Parser Tree := do
  sign "."
  require (!(← lookingAt "."))
  skip
  if ← nextIs Char.isDigit then do
    let index ← leaf "integer_literal" (takeWhile Char.isDigit)
    nodeFrom "field_expression" t [t.inField "value", index.inField "field"]
  else do
    let w ← peekWord
    require (w != "")
    let n ← leaf "field_identifier" (take w.length)
    if w == "await" then nodeFrom "await_expression" t [t]
    else do
      let member ← nodeFrom "field_expression" t [t.inField "value", n.inField "field"]
      let generics ← optional (do sign "::"; typeArguments p)
      match generics with
      | some g => nodeFrom "generic_function" t [member.inField "function", g]
      | none => return member

/-- Extends an operand by one selection, call, index or question mark behind it. -/
def suffix (p : Rules Part) (t : Tree) : Parser Tree := do
  skip
  match (← get).peek? with
  | some '?' => do
    take 1
    nodeFrom "try_expression" t [t]
  | some '.' => selected p t
  | some '(' => do
    let given ← arguments p
    nodeFrom "call_expression" t [t.inField "function", given.inField "arguments"]
  | some '[' => do
    take 1
    let index ← p (.expression true)
    sign "]"
    nodeFrom "index_expression" t [t, index]
  | _ => failure

/-- Takes one sign before an operand, with the words that belong to it. -/
def prefixOperator : Parser Unit := do
  skip
  if ← lookingAt "&" then do
    take 1
    let _ ← optional do
      keyword "raw"
      firstOf [keyword "const", keyword "mut"]
    let _ ← optional (keyword "mut")
  else do
    require (← nextIs fun c => c == '-' || c == '!' || c == '*')
    take 1

def rangeEnd (p : Rules Part) (literals : Bool) : Parser (List Tree) := do
  let value ← optional do
    require (literals || !(← signAhead "\x7b"))
    p (.unary literals)
  return value.toList

def rangeSign : Parser Unit :=
  firstOf [sign "..=", sign "..."  , sign ".."]

/-- An operand with what stands before and behind it, or a range without a start. -/
def unaryRule (p : Rules Part) (literals : Bool) : Parser Tree := do
  if ← signAhead ".." then
    tree "range_expression" do
      rangeSign
      rangeEnd p literals
  else do
    let before ← many prefixOperator
    let first ← primary p literals
    let whole ← extend (suffix p) first
    if before.isEmpty then return whole else nodeFrom "unary_expression" whole [whole]

/-! ## Operators -/

def binarySigns : List String :=
  ["<<=", ">>=", "&&", "||", "==", "!=", "<=", ">=", "<<", ">>", "+=", "-=", "*=", "/=",
   "%=", "&=", "|=", "^=", "+", "-", "*", "/", "%", "&", "|", "^", "<", ">", "="]

def binaryRest (p : Rules Part) (literals : Bool) : Parser (List Tree) := do
  if (← peekWord) == "as" then do
    keyword "as"
    return [← p .type]
  else if ← signAhead ".." then do
    rangeSign
    rangeEnd p literals
  else do
    let c ← get
    require (!c.startsWith ['=', '>'] 0)
    match binarySigns.find? fun s => c.startsWith s.toList 0 with
    | some s => take s.length
    | none => failure
    return [← p (.unary literals)]

def expressionRule (p : Rules Part) (literals : Bool) : Parser Tree := do
  attributes
  let first ← p (.unary literals)
  let rest ← many (binaryRest p literals)
  group "binary_expression" (first :: rest.flatten)

end CodeRetrieval.Grammar.Crate
