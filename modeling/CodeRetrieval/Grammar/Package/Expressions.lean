import CodeRetrieval.Grammar.Package.Types

/-!
# Expressions of packages

Operands with what is called, selected and indexed from them. Operators between operands
bind equally, since cutting asks only which calls an expression holds and in which
order.
-/

namespace CodeRetrieval.Grammar.Package

open Syntax

/-! ## Literals -/

def functionLiteral (p : Rules Part) : Parser Tree :=
  tree "func_literal" do
    keyword "func"
    let head ← signature p
    require (!(← newlineAhead))
    return head ++ [← p .block]

/-- The elements of a literal, possibly with keys. An element that is itself such a
literal need not name its type. -/
def literalValueRule (p : Rules Part) : Parser Tree :=
  let value := do
    if ← signAhead "\x7b" then p .literalValue else p (.expression true)
  tree "literal_value" <| listOf "\x7b" "\x7d" do
    let first ← value
    let second ← optional (do sign ":"; value)
    group "keyed_element" (first :: second.toList)

/-- A literal or conversion that starts with a type that is no name. -/
def typedOperand (p : Rules Part) : Parser Tree := do
  let type ← p .type
  if ← signAhead "\x7b" then nodeFrom "composite_literal" type [type, ← p .literalValue]
  else do
    require (← signAhead "(")
    let value ← listOf "(" ")" (p (.expression true))
    nodeFrom "type_conversion_expression" type (type :: value)

/-! ## Operands -/

def primary (p : Rules Part) : Parser Tree := do
  skip
  match (← get).peek? with
  | some '(' =>
    tree "parenthesized_expression" (listOf "(" ")" (firstOf
      [do
        let t ← p (.expression true)
        require (← signAhead ")")
        return t,
       p .type]))
  | some '[' => typedOperand p
  | some '\x22' => quotedText
  | some '\x27' => quotedText
  | some '\x60' => quotedText
  | _ =>
    match ← peekWord with
    | "" => number
    | "func" => firstOf [functionLiteral p, typedOperand p]
    | w =>
      if ["map", "chan", "struct", "interface"].contains w then typedOperand p
      else name "identifier"

/-- Arguments of a call. Some functions take a type. -/
def arguments (p : Rules Part) : Parser Tree :=
  tree "argument_list" <| listOf "(" ")" <|
    firstOf
      [do
        let t ← p (.expression true)
        let spread ← optional (sign "...")
        require (← charAhead fun c => c == ',' || c == ')')
        if spread.isSome then nodeFrom "variadic_argument" t [t] else return t,
       p .type]

/-- The operand may name a type: a name, a name of another package, or one of these with
type arguments. -/
def namesType : Tree → Bool
  | ⟨"identifier", _, _, _, _⟩ => true
  | ⟨"index_expression", _, _, _, operand :: _⟩ => namesType operand
  | ⟨"selector_expression", _, _, _, [⟨"identifier", _, _, _, _⟩, _]⟩ => true
  | _ => false

/-- Calls a function with type arguments. With exactly one argument behind a named type,
and that not spread, this is a conversion to a generic type, and else a call of the
function. -/
def genericCall (p : Rules Part) (t : Tree) : Parser Tree := do
  let generics ← typeArguments p
  require (!(← newlineAhead))
  require (← lookingAt "(")
  let given ← arguments p
  let single := given.children.length == 1 && !given.children.any fun a =>
    a.type == "variadic_argument"
  if namesType t && single then nodeFrom "type_conversion_expression" t [t, generics, given]
  else nodeFrom "call_expression" t [t.inField "function", generics,
    given.inField "arguments"]

def indexed (p : Rules Part) (t : Tree) : Parser Tree := do
  sign "["
  let parts ← many do
    require (!(← signAhead "]"))
    firstOf
      [do sign ":"; return [],
       do sign ","; return [],
       do
        let e ← p (.expression true)
        require (← charAhead fun c => c == ':' || c == ',' || c == ']')
        return [e],
       do return [← p .type]]
  sign "]"
  nodeFrom "index_expression" t (t :: parts.flatten)

/-- Extends an operand by one selection, index, call or literal value behind it. -/
def suffix (p : Rules Part) (literals : Bool) (t : Tree) : Parser Tree := do
  require (!(← newlineAhead))
  match (← get).peek? with
  | some '.' => do
    take 1
    if ← signAhead "(" then do
      let type ← listOf "(" ")" (firstOf [leaf "type" (keyword "type"), p .type])
      nodeFrom "type_assertion_expression" t (t :: type)
    else do
      let n ← name "field_identifier"
      nodeFrom "selector_expression" t [t, n.inField "field"]
  | some '(' => do
    let given ← arguments p
    nodeFrom "call_expression" t [t.inField "function", given.inField "arguments"]
  | some '[' => firstOf [genericCall p t, indexed p t]
  | some '\x7b' => do
    require (literals && namesType t)
    nodeFrom "composite_literal" t [t, ← p .literalValue]
  | _ => failure

def prefixOperator : Parser Unit := do
  skip
  if ← lookingAt "<-" then take 2
  else do
    require (← nextIs fun c => "+-!^*&".toList.contains c)
    take 1

/-- An operand with what stands before and behind it. A channel type that only receives
is an operand as well. -/
def unaryRule (p : Rules Part) (literals : Bool) : Parser Tree :=
  firstOf
    [do
      let before ← many prefixOperator
      let first ← primary p
      let whole ← extend (suffix p literals) first
      if before.isEmpty then return whole else nodeFrom "unary_expression" whole [whole],
     do
      require (← signAhead "<-")
      typedOperand p]

/-! ## Operators -/

def binarySigns : List String :=
  ["&&", "||", "==", "!=", "<=", ">=", "<<", ">>", "&^", "+", "-", "*", "/", "%",
   "&", "|", "^", "<", ">"]

def assignmentSigns : List String :=
  [":=", "<<=", ">>=", "&^=", "+=", "-=", "*=", "/=", "%=", "&=", "|=", "^="]

/-- Takes a sign between operands, on the line of the first. -/
def binaryOperator : Parser Unit := do
  require (!(← newlineAhead))
  let c ← get
  let other := "<-" :: "++" :: "--" :: assignmentSigns
  require (!other.any fun s => c.startsWith s.toList 0)
  match binarySigns.find? fun s => c.startsWith s.toList 0 with
  | some s => take s.length
  | none => failure

def expressionRule (p : Rules Part) (literals : Bool) : Parser Tree := do
  let first ← p (.unary literals)
  let rest ← many (do binaryOperator; p (.unary literals))
  group "binary_expression" (first :: rest)

def expressions (p : Rules Part) (literals : Bool) : Parser (List Tree) := do
  let first ← p (.expression literals)
  let rest ← many (do sign ","; p (.expression literals))
  return first :: rest

end CodeRetrieval.Grammar.Package
