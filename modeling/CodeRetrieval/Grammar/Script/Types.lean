import CodeRetrieval.Grammar.Script.Lexis

/-!
# Bindings, parameters and types of script languages

Names and patterns that values are bound to, parameter lists, and the types of the typed
dialects. Of types only the methods of object types matter for cutting; the rest is read
in order to get past it.
-/

namespace CodeRetrieval.Grammar.Script

open Syntax

/-! ## Names of members -/

def computedName (p : Rules Part) : Parser Tree :=
  tree "computed_property_name" do
    exactly "["
    let e ← p .assignment
    sign "]"
    return [e]

def privateName : Parser Tree :=
  tree "private_property_identifier" do
    exactly "#"
    takeWhile isWordPart
    return []

def memberName (p : Rules Part) : Parser Tree :=
  firstOf [word "property_identifier", quoted, number, privateName, computedName p]

/-- A character that a member's name can start with, or the star before it. -/
def startsMember (c : Char) : Bool :=
  isWordPart c || c == '\x22' || c == '\x27' || c == '[' || c == '#' || c == '*'

def modifier (words : List String) : Parser String := do
  let w ← peekWord
  require (words.contains w)
  take w.length
  require (← charAhead startsMember)
  return w

/-! ## Bindings and parameters -/

def defaultValue (p : Rules Part) : Parser (List Tree) := do
  let value ← optional do
    require (!(← signAhead "=>"))
    sign "="
    p .assignment
  return value.toList

def patternEntry (p : Rules Part) : Parser Tree :=
  tree "pair_pattern" do
    if ← signAhead "..." then do
      sign "..."
      return [← p .binding]
    else do
      let key ← memberName p
      let target ← optional (do sign ":"; p .binding)
      return key :: target.toList ++ (← defaultValue p)

def patternElement (p : Rules Part) : Parser Tree :=
  tree "element_pattern" do
    let _ ← optional (sign "...")
    return (← p .binding) :: (← defaultValue p)

/-- What a value can be bound to: a name, or a pattern of names. -/
def bindingRule (p : Rules Part) : Parser Tree := do
  skip
  match (← get).peek? with
  | some '\x7b' => tree "object_pattern" (listOf "\x7b" "\x7d" (patternEntry p))
  | some '[' => tree "array_pattern" (listOf "[" "]" (patternElement p))
  | _ => word "identifier"

def typeAnnotation (d : Dialect) (p : Rules Part) : Parser (List Tree) := do
  if d.typed && (← signAhead ":") then do
    sign ":"
    return [← p .type]
  else return []

/-- A decorator: a name with its members and calls, or an expression in parentheses. -/
def decorator (p : Rules Part) : Parser Tree :=
  tree "decorator" do
    exactly "@"
    let first ← firstOf [word "identifier",
        tree "parenthesized_expression" (listOf "(" ")" (p .expression))]
    let whole ← extend (fun t => do
      if ← lookingAt "." then do
        take 1
        let name ← word "property_identifier"
        nodeFrom "member_expression" t [t.inField "object", name.inField "property"]
      else do
        require (← lookingAt "(")
        let arguments ← node "arguments" (listOf "(" ")" do
          let _ ← optional (sign "...")
          p .assignment)
        nodeFrom "call_expression" t [t.inField "function", arguments.inField "arguments"])
          first
    return [whole]

def parameterModifiers : List String :=
  ["public", "private", "protected", "readonly", "override"]

def parameter (d : Dialect) (p : Rules Part) : Parser Tree :=
  tree "parameter" do
    let decorators ← many (decorator p)
    let _ ← many do
      let w ← peekWord
      require (d.typed && parameterModifiers.contains w)
      take w.length
      require (← charAhead fun c => isWordStart c || c == '\x7b' || c == '[')
    let _ ← optional (sign "...")
    let target ← p .binding
    let _ ← optional (do require d.typed; sign "?")
    let type ← typeAnnotation d p
    return decorators ++ target :: type ++ (← defaultValue p)

def parameters (d : Dialect) (p : Rules Part) : Parser Tree :=
  tree "formal_parameters" (listOf "(" ")" (parameter d p))

def typeParameter (p : Rules Part) : Parser Tree :=
  tree "type_parameter" do
    let _ ← many do
      let w ← peekWord
      require (["const", "in", "out"].contains w)
      take w.length
      require (← charAhead isWordStart)
    let name ← word "type_identifier"
    let bound ← optional (do keyword "extends"; p .type)
    let default ← optional (do sign "="; p .type)
    return name :: bound.toList ++ default.toList

def typeParameters (p : Rules Part) : Parser Tree :=
  tree "type_parameters" (listOf "<" ">" (typeParameter p))

def typeArguments (p : Rules Part) : Parser Tree :=
  tree "type_arguments" (listOf "<" ">" (p .type))

def optionalTypeParameters (d : Dialect) (p : Rules Part) : Parser (List Tree) := do
  if d.typed && (← signAhead "<") then return [← typeParameters p] else return []

/-! ## Types -/

/-- The head of a mapped type: its key in brackets with the set of keys it runs over. -/
def mappedKey (p : Rules Part) : Parser (List Tree) := do
  sign "["
  let _ ← word "type_identifier"
  keyword "in"
  let keys ← p .type
  let renamed ← optional (do keyword "as"; p .type)
  sign "]"
  return keys :: renamed.toList

def indexKey (p : Rules Part) : Parser (List Tree) := do
  sign "["
  let _ ← word "identifier"
  sign ":"
  let type ← p .type
  sign "]"
  return [type]

def indexSignature (d : Dialect) (p : Rules Part) : Parser Tree :=
  tree "index_signature" do
    let _ ← optional (firstOf [sign "-", sign "+"])
    let _ ← optional (modifier ["readonly", "static"])
    let key ← firstOf [mappedKey p, indexKey p]
    let _ ← optional (firstOf [sign "-?", sign "+?", sign "?"])
    return key ++ (← typeAnnotation d p)

def callSignature (d : Dialect) (p : Rules Part) : Parser (List Tree) := do
  let generics ← optionalTypeParameters d p
  let formal ← parameters d p
  return generics ++ formal.inField "parameters" :: (← typeAnnotation d p)

/-- A parameter list comes next, possibly after type parameters. -/
def callSignatureAhead (d : Dialect) : Parser Bool := do
  return (← signAhead "(") || (d.typed && (← signAhead "<"))

def typeMember (d : Dialect) (p : Rules Part) : Parser Tree := do
  skip
  let member : Parser (String × List Tree) := do
    let _ ← many (modifier ["readonly", "get", "set", "async", "public", "private",
        "protected", "static"])
    let name ← memberName p
    let _ ← optional (sign "?")
    if ← callSignatureAhead d then
      return ("method_signature", name.inField "name" :: (← callSignature d p))
    else return ("property_signature", name.inField "name" :: (← typeAnnotation d p))
  firstOf
    [indexSignature d p,
     tree "call_signature" (callSignature d p),
     tree "construct_signature" (do keyword "new"; callSignature d p),
     nodeOf member]

/-- An object type: members that semicolons, commas or line ends separate. -/
def objectType (d : Dialect) (p : Rules Part) : Parser Tree :=
  tree "object_type" do
    exactly "\x7b"
    let _ ← optional (sign "|")
    let members ← many do
      let _ ← many (firstOf [sign ";", sign ","])
      typeMember d p
    let _ ← many (firstOf [sign ";", sign ",", sign "|"])
    sign "\x7d"
    return members

def tupleElement (p : Rules Part) : Parser Tree :=
  tree "tuple_element" do
    let _ ← optional (sign "...")
    let _ ← optional do
      let _ ← word "identifier"
      let _ ← optional (sign "?")
      sign ":"
    let type ← p .type
    let _ ← optional (sign "?")
    return [type]

def functionType (d : Dialect) (p : Rules Part) : Parser Tree :=
  tree "function_type" do
    let generics ← optionalTypeParameters d p
    let formal ← parameters d p
    sign "=>"
    return generics ++ [formal, ← p .type]

def namedType (p : Rules Part) : Parser Tree :=
  tree "named_type" do
    let first ← word "type_identifier"
    let rest ← many (do sign "."; word "type_identifier")
    let arguments ← optional (do require (!(← newlineAhead)); typeArguments p)
    return first :: rest ++ arguments.toList

def primaryType (d : Dialect) (p : Rules Part) : Parser Tree := do
  skip
  let c ← get
  match c.peek? with
  | some '(' =>
      firstOf [functionType d p, tree "parenthesized_type" (listOf "(" ")" (p .type))]
  | some '<' => functionType d p
  | some '[' => tree "tuple_type" (listOf "[" "]" (tupleElement p))
  | some '\x7b' => objectType d p
  | some '\x60' => template p .type
  | some '-' => tree "literal_type" (do exactly "-"; return [← number])
  | _ =>
    match ← peekWord with
    | "typeof" =>
      tree "type_query" do
        keyword "typeof"
        firstOf
          [do
            keyword "import"
            let _ ← listOf "(" ")" (p .type)
            let rest ← many (do sign "."; word "identifier")
            let arguments ← optional (typeArguments p)
            return rest ++ arguments.toList,
           return [← namedType p]]
    | "import" =>
      firstOf
        [tree "import_type" do
          keyword "import"
          let _ ← listOf "(" ")" (p .type)
          let rest ← many (do sign "."; word "type_identifier")
          let arguments ← optional (typeArguments p)
          return rest ++ arguments.toList,
         namedType p]
    | "new" => tree "constructor_type" (do keyword "new"; return [← functionType d p])
    | "abstract" =>
      firstOf
        [tree "constructor_type"
          (do keyword "abstract"; keyword "new"; return [← functionType d p]), namedType p]
    | _ => firstOf [namedType p, quoted, number]

/-- Words that make a new type of the type after them. -/
def typePrefixes : List String :=
  ["keyof", "readonly", "unique", "infer", "asserts"]

def suffixedType (d : Dialect) (p : Rules Part) : Parser Tree := do
  let before ← many do
    let w ← peekWord
    require (typePrefixes.contains w)
    take w.length
    require (← charAhead fun c =>
      isWordStart c || c == '(' || c == '\x7b' || c == '[' || c == '\x22' ||
        c == '\x27' || c == '\x60')
  let inner ← primaryType d p
  let whole ← extend (fun t => do
    require (!(← newlineAhead))
    sign "["
    let index ← optional (p .type)
    sign "]"
    nodeFrom "array_type" t (t :: index.toList)) inner
  if before.isEmpty then return whole else nodeFrom "operator_type" whole [whole]

/-- A type: operands with operators between them, and the two branches of a conditional
type. -/
def typeRule (d : Dialect) (p : Rules Part) : Parser Tree :=
  tree "type" do
    let _ ← optional (firstOf [sign "|", sign "&"])
    let first ← suffixedType d p
    let rest ← many do
      firstOf
        [do
          firstOf [sign "|", sign "&"]
          suffixedType d p,
         do
          keyword "is"
          p .type,
         do
          keyword "extends"
          let bound ← suffixedType d p
          let more ← many (do firstOf [sign "|", sign "&"]; suffixedType d p)
          sign "?"
          let yes ← p .type
          sign ":"
          let no ← p .type
          nodeFrom "conditional_type" bound (bound :: more ++ [yes, no]),
         do
          -- the bound of a type that is to be inferred
          keyword "extends"
          suffixedType d p]
    return first :: rest

end CodeRetrieval.Grammar.Script
