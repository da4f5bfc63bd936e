import CodeRetrieval.Grammar.Script.Types

/-!
# Expressions of script languages

Operands with what is called, selected and constructed from them. Operators between
operands bind equally, since cutting asks only which calls, functions and classes an
expression holds and in which order.
-/

namespace CodeRetrieval.Grammar.Script

open Syntax

/-! ## Functions -/

def optionalBody (p : Rules Part) : Parser (List Tree) := do
  if ← signAhead "\x7b" then return [(← p .block).inField "body"] else return []

/-- The rest of a function after the word that announces it: whether it is a generator,
its name, its signature and its body. -/
def functionRest (d : Dialect) (p : Rules Part) :
    Parser (Bool × Option Tree × List Tree × List Tree) := do
  keyword "function"
  let star ← optional (sign "*")
  let name ← optional (word "identifier")
  let signature ← callSignature d p
  return (star.isSome, name.map (·.inField "name"), signature, ← optionalBody p)

/-- Takes the word that makes a function asynchronous, when a function follows on its
line. -/
def asyncFunction : Parser Unit := do
  keyword "async"
  require (!(← newlineAhead))
  require ((← peekWord) == "function")

def functionExpression (d : Dialect) (p : Rules Part) : Parser Tree := do
  skip
  nodeOf do
    let _ ← optional asyncFunction
    let (generator, name, signature, body) ← functionRest d p
    require (!body.isEmpty)
    return (if generator then "generator_function" else "function_expression",
      name.toList ++ signature ++ body)

def arrowFunction (d : Dialect) (p : Rules Part) : Parser Tree :=
  tree "arrow_function" do
    let _ ← optional do
      keyword "async"
      require (!(← newlineAhead))
      require (← charAhead fun c => isWordStart c || c == '(' || c == '<')
      require (!(← signAhead "=>"))
    let head ← firstOf
      [do return [(← word "identifier").inField "parameter"],
       callSignature d p]
    require (!(← newlineAhead))
    sign "=>"
    let body ← if ← signAhead "\x7b" then p .block else p .assignment
    return head ++ [body.inField "body"]

/-- An arrow function can start here: a parameter list, type parameters, or a word
before the arrow. -/
def arrowPossible (d : Dialect) : Parser Bool := do
  if ← signAhead "(" then return true
  else if ← signAhead "<" then
    -- where an element could start as well, a comma or a bound tells type parameters
    -- from it
    if d.markup then
      return d.typed && (← follows do
        sign "<"
        let _ ← word "type_identifier"
        firstOf [sign ",", keyword "extends"])
    else return d.typed
  else
    let w ← peekWord
    if w == "async" then return true
    else if w == "" then return false
    else follows (do keyword w; sign "=>")

/-! ## Operands -/

def arguments (p : Rules Part) : Parser Tree :=
  tree "arguments" <| listOf "(" ")" do
    let _ ← optional (sign "...")
    p .assignment

def arrayLiteral (p : Rules Part) : Parser Tree :=
  tree "array" <| listOf "[" "]" do
    let _ ← optional (sign "...")
    p .assignment

/-- A member of an object: a spread value, a method, a key with a value, or a name alone. -/
def objectMember (d : Dialect) (p : Rules Part) : Parser Tree := do
  skip
  nodeOf do
    if ← signAhead "..." then do
      sign "..."
      return ("spread_element", [← p .assignment])
    else do
      let _ ← many (modifier ["async", "get", "set"])
      let _ ← optional (sign "*")
      let name ← memberName p
      if ← callSignatureAhead d then do
        let signature ← callSignature d p
        let body ← p .block
        return ("method_definition",
          name.inField "name" :: signature ++ [body.inField "body"])
      else if ← signAhead ":" then do
        sign ":"
        let value ← p .assignment
        return ("pair", [name.inField "key", value.inField "value"])
      else return ("shorthand", name :: (← defaultValue p))

def objectLiteral (d : Dialect) (p : Rules Part) : Parser Tree :=
  tree "object" (listOf "\x7b" "\x7d" (objectMember d p))

/-- The parts of a class between its name and its body: what it extends and what it
implements. -/
def heritage (d : Dialect) (p : Rules Part) (base : Parser Tree) : Parser (List Tree) := do
  let extended ← optional do
    keyword "extends"
    let first ← base
    let arguments ← optional (do require d.typed; typeArguments p)
    let more ← many do
      sign ","
      let other ← base
      let arguments ← optional (do require d.typed; typeArguments p)
      return other :: arguments.toList
    return first :: arguments.toList ++ more.flatten
  let implemented ← optional do
    require d.typed
    keyword "implements"
    let first ← p .type
    let more ← many (do sign ","; p .type)
    return first :: more
  return extended.getD [] ++ implemented.getD []

/-- A class from its announcing word on: its name, if it has one, and all that follows. -/
def classRest (d : Dialect) (p : Rules Part) (base : Parser Tree) :
    Parser (Option Tree × List Tree) := do
  keyword "class"
  let name ← optional do
    let w ← peekWord
    require (w != "extends" && w != "implements")
    word "type_identifier"
  let generics ← optionalTypeParameters d p
  let above ← heritage d p base
  let body ← p .classBody
  return (name.map (·.inField "name"), generics ++ above ++ [body.inField "body"])

def classExpression (d : Dialect) (p : Rules Part) (base : Parser Tree) : Parser Tree :=
  tree "class" do
    let decorators ← many (do skip; decorator p)
    let (name, rest) ← classRest d p base
    return decorators ++ name.toList ++ rest

def selectedName : Parser Tree := do
  firstOf [word "property_identifier", privateName]

def selectMember (p : Rules Part) (t : Tree) : Parser Tree := do
  skip
  if ← lookingAt "[" then do
    take 1
    let index ← p .expression
    sign "]"
    nodeFrom "subscript_expression" t [t.inField "object", index.inField "index"]
  else do
    require (!(← lookingAt "..."))
    exactly "."
    let name ← selectedName
    nodeFrom "member_expression" t [t.inField "object", name.inField "property"]

def constructed (p : Rules Part) (operand : Parser Tree) : Parser Tree := do
  let first ← operand
  extend (selectMember p) first

/-- A construction: the word `new`, what is constructed, type arguments and arguments.
The number bounds how many constructions can follow each other directly. -/
def construction (d : Dialect) (p : Rules Part) (operand : Parser Tree) : Nat → Parser Tree
  | 0 => failure
  | n + 1 =>
    tree "new_expression" do
      keyword "new"
      if ← signAhead "." then do
        sign "."
        return [← word "property_identifier"]
      else do
        let callee ←
          if (← peekWord) == "new" then construction d p operand n
            else constructed p operand
        let generics ← optional do
          require d.typed
          let t ← typeArguments p
          require (!(← charAhead fun c => isWordPart c))
          return t
        let given ← optional (arguments p)
        return callee.inField "constructor" :: generics.toList ++
          (given.map (·.inField "arguments")).toList

def valueWords : List String :=
  ["this", "super", "null", "true", "false", "undefined"]

def wordOperand : Parser Tree := do
  let w ← peekWord
  if w == "import" then do
    let t ← word "import"
    extend (fun t => do
      sign "."
      let name ← word "property_identifier"
      nodeFrom "meta_property" t [name]) t
  else if valueWords.contains w then word w
  else do
    require (!reserved.contains w)
    word "identifier"

/-- A type in angle brackets before the value that is taken to have it. -/
def typeAssertion (p : Rules Part) : Parser Tree :=
  tree "type_assertion" do
    let type ← typeArguments p
    return [type, ← p .unary]

def primary (d : Dialect) (p : Rules Part) : Parser Tree := do
  skip
  match (← get).peek? with
  | some '(' => tree "parenthesized_expression" (listOf "(" ")" (p .expression))
  | some '[' => arrayLiteral p
  | some '\x7b' => objectLiteral d p
  | some '\x60' => template p .expression
  | some '\x22' => quoted
  | some '\x27' => quoted
  | some '/' => pattern
  | some '#' => privateName
  | some '@' => classExpression d p (p .unary)
  | some '<' => if d.markup then p .markup else typeAssertion p
  | _ =>
    match ← peekWord with
    | "" => number
    | "function" => functionExpression d p
    | "async" => firstOf [functionExpression d p, wordOperand]
    | "class" => classExpression d p (p .unary)
    | _ => wordOperand

/-- An operand that a construction can start with, or any other. -/
def operand (d : Dialect) (p : Rules Part) : Parser Tree := do
  if (← peekWord) == "new" then do
    construction d p (primary d p) (← get).remaining
  else primary d p

def callOf (d : Dialect) (p : Rules Part) (t : Tree) : Parser Tree := do
  let generics ← optional do
    require (d.typed && (← signAhead "<"))
    typeArguments p
  skip
  let given ← if ← lookingAt "\x60" then template p .expression else arguments p
  nodeFrom "call_expression" t
    (t.inField "function" :: generics.toList ++ [given.inField "arguments"])

def instantiation (d : Dialect) (p : Rules Part) (t : Tree) : Parser Tree := do
  require (d.typed && (← signAhead "<"))
  let generics ← typeArguments p
  let ended ← charAhead fun c => c == ';' || c == ')' || c == ',' || c == ']' || c == '\x7d'
  require (ended || (← newlineAhead))
  nodeFrom "instantiation_expression" t [t, generics]

/-- Extends an operand by one selection, call or sign behind it. -/
def suffix (d : Dialect) (p : Rules Part) (t : Tree) : Parser Tree := do
  skip
  let c ← get
  match c.peek?, c.ahead? 1 with
  | some '?', some '.' =>
    if (c.ahead? 2).any Char.isDigit then failure
    else do
      take 2
      firstOf
        [callOf d p t,
         do
          require (← signAhead "[")
          selectMember p t,
         do
          let name ← selectedName
          nodeFrom "member_expression" t [t.inField "object", name.inField "property"]]
  | some '!', next =>
    if d.typed && next != some '=' && !(← newlineAhead) then do
      take 1
      nodeFrom "non_null_expression" t [t]
    else failure
  | some '+', some '+' => updated c t
  | some '-', some '-' => updated c t
  | some '.', _ => selectMember p t
  | some '[', _ => selectMember p t
  | some '(', _ => callOf d p t
  | some '\x60', _ => callOf d p t
  | some '<', _ => firstOf [callOf d p t, instantiation d p t]
  | _, _ => failure
where
  /-- The sign that counts a variable up or down stands on its line. -/
  updated (c : Cursor) (t : Tree) : Parser Tree := do
    require (decide (c.stop.row = c.row))
    take 2
    nodeFrom "update_expression" t [t]

/-! ## Operators -/

def prefixWords : List String :=
  ["typeof", "void", "delete", "await"]

def startsOperand (c : Char) : Bool :=
  isWordPart c || c == '(' || c == '[' || c == '\x7b' || c == '\x60' || c == '\x22' ||
    c == '\x27' || c == '/'
    || c == '#' || c == '<' || c == '@' || c == '!' || c == '~' || c == '+' || c == '-'

/-- Takes one sign or word before an operand. -/
def prefixOperator : Parser Unit := do
  skip
  if ← nextIs fun c => c == '!' || c == '~' || c == '+' || c == '-' then take 1
  else do
    let w ← peekWord
    require (prefixWords.contains w)
    take w.length
    require (← charAhead startsOperand)
    require (!(← signAhead "=>"))

def unaryRule (d : Dialect) (p : Rules Part) : Parser Tree := do
  skip
  let start := (← get).point
  let before ← many prefixOperator
  let first ← operand d p
  let whole ← extend (suffix d p) first
  if before.isEmpty then return whole
  else return ⟨"unary_expression", start, (← get).stop, none, [whole]⟩

def binarySigns : List String :=
  [">>>", "===", "!==", "**", "<<", ">>", "<=", ">=", "==", "!=", "&&", "||", "??", "*",
   "/", "%", "+", "-", "<", ">", "&", "^", "|"]

def assignmentSigns : List String :=
  [">>>=", "<<=", ">>=", "**=", "&&=", "||=", "??=", "+=", "-=", "*=", "/=",
   "%=", "&=", "^=", "|="]

def binarySign : Parser Unit := do
  skip
  let c ← get
  require (!assignmentSigns.any fun s => c.startsWith s.toList 0)
  match binarySigns.find? fun s => c.startsWith s.toList 0 with
  | some s => take s.length
  | none => failure

def binaryRest (d : Dialect) (p : Rules Part) : Parser Tree := do
  match ← peekWord with
  | "" => do
    binarySign
    p .unary
  | "as" => typed "as"
  | "satisfies" => typed "satisfies"
  | "in" => do
    keyword "in"
    p .unary
  | "instanceof" => do
    keyword "instanceof"
    p .unary
  | _ => failure
where
  /-- A type behind a word on the same line. -/
  typed (w : String) : Parser Tree := do
    require (d.typed && !(← newlineAhead))
    keyword w
    p .type

def binary (d : Dialect) (p : Rules Part) : Parser Tree := do
  let first ← p .unary
  let rest ← many (binaryRest d p)
  group "binary_expression" (first :: rest)

/-- The value before the colon of a condition. What reads as an arrow function with a
type behind a colon is an operand in brackets where the condition would lack its colon
otherwise. -/
def firstChoice (d : Dialect) (p : Rules Part) : Parser Tree :=
  firstOf
    [do
      let value ← p .assignment
      sign ":"
      return value,
     do
      let value ← binary d p
      sign ":"
      return value]

def conditional (d : Dialect) (p : Rules Part) : Parser Tree := do
  let condition ← binary d p
  let c ← (do skip; get)
  if c.peek? == some '?' && c.ahead? 1 != some '?' &&
      (c.ahead? 1 != some '.' || (c.ahead? 2).any Char.isDigit) then do
    take 1
    let yes ← firstChoice d p
    let no ← p .assignment
    nodeFrom "ternary_expression" condition [condition, yes, no]
  else return condition

def yielded (p : Rules Part) : Parser Tree :=
  tree "yield_expression" do
    keyword "yield"
    let value ← optional do
      require (!(← newlineAhead))
      let _ ← optional (sign "*")
      p .assignment
    return value.toList

def assignmentRule (d : Dialect) (p : Rules Part) : Parser Tree := do
  skip
  let arrow ← if ← arrowPossible d then optional (arrowFunction d p) else pure none
  match arrow with
  | some t => return t
  | none =>
    if (← peekWord) == "yield" then yielded p
    else do
      let target ← conditional d p
      let value ← optional do
        skip
        let c ← get
        match assignmentSigns.find? fun s => c.startsWith s.toList 0 with
        | some s => take s.length
        | none => do
          require (!c.startsWith ['=', '='] 0 && !c.startsWith ['=', '>'] 0)
          exactly "="
        p .assignment
      match value with
      | some v => nodeFrom "assignment_expression" target [target, v]
      | none => return target

def expressionRule (p : Rules Part) : Parser Tree := do
  let first ← p .assignment
  let rest ← many do
    sign ","
    let _ ← optional (sign "...")
    p .assignment
  group "sequence_expression" (first :: rest)

end CodeRetrieval.Grammar.Script
