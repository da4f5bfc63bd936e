import CodeRetrieval.Grammar.Crate.Lexis

/-!
# Types of crates

Type expressions, the bounds that types keep to, and the parameters of types and functions.
-/

namespace CodeRetrieval.Grammar.Crate

open Syntax

/-! ## Bounds -/

/-- Lifetimes that a bound or function type holds for. -/
def forLifetimes : Parser Unit := do
  keyword "for"
  let _ ← listOf "<" ">" lifetime

/-- What a type keeps to: traits and lifetimes, joined by plus signs. -/
def bounds (p : Rules Part) : Parser (List Tree) := do
  let bound : Parser Tree := do
    let _ ← optional (firstOf [sign "?", do sign "~"; keyword "const"])
    let _ ← optional forLifetimes
    firstOf [lifetime, p .type]
  let first ← optional bound
  let rest ← many (do sign "+"; bound)
  return first.toList ++ rest

/-! ## Paths -/

/-- An argument of a generic type: a lifetime, a type for a named place, a type, or a
constant. -/
def typeArgument (p : Rules Part) : Parser Tree :=
  let ended := charAhead fun c => c == ',' || c == '>'
  firstOf
    [lifetime,
     tree "type_binding" (do
      let n ← name "type_identifier"
      let arguments ← optional (do require (← signAhead "<"); p .type)
      if ← signAhead "=" then do
        sign "="
        return n :: arguments.toList ++ [← p .type]
      else do
        require (!(← signAhead "::"))
        sign ":"
        return n :: (← bounds p)),
     do
      let t ← p .type
      require (← ended)
      return t,
     do
      if ← signAhead "\x7b" then p .block
      else p (.unary false)]

/-- Arguments in angle brackets behind a generic name. -/
def typeArguments (p : Rules Part) : Parser Tree :=
  tree "type_arguments" (listOf "<" ">" (typeArgument p))

/-- A type in angle brackets that is taken as one that keeps to a trait. -/
def bracketedType (p : Rules Part) : Parser Tree :=
  tree "bracketed_type" do
    sign "<"
    let type ← p .type
    let trait ← optional (do keyword "as"; p .type)
    sign ">"
    return type :: trait.toList

/-- The types that a function takes and gives, written behind its name. -/
def functionTypes (p : Rules Part) : Parser (List Tree) := do
  let given ← listOf "(" ")" do
    attributes
    let _ ← optional (do let _ ← name "identifier"; require (!(← signAhead "::")); sign ":")
    firstOf [leaf "variadic" (sign "..."), p .type]
  let result ← optional (do sign "->"; p .type)
  return given ++ result.toList

def typePathStep (p : Rules Part) (t : Tree) : Parser Tree := do
  if ← signAhead "::" then do
    take 2
    if ← signAhead "<" then nodeFrom "generic_type" t [t, ← typeArguments p]
    else nodeFrom "scoped_type_identifier" t [t, (← name "type_identifier").inField "name"]
  else do
    require (t.type != "generic_type")
    if ← signAhead "(" then nodeFrom "function_type" t (t :: (← functionTypes p))
    else nodeFrom "generic_type" t [t.inField "type", ← typeArguments p]

def typePath (p : Rules Part) : Parser Tree := do
  let first ← firstOf
    [bracketedType p, tree "scoped_type_identifier"
      (do sign "::"; return [(← name "type_identifier").inField "name"]),
      name "type_identifier"]
  let whole ← extend (typePathStep p) first
  if (← signAhead "!") && !(← signAhead "!=") then do
    sign "!"
    nodeFrom "macro_invocation" whole [← tokenTree]
  else return whole

/-! ## Types -/

def functionPointer (p : Rules Part) : Parser Tree :=
  tree "function_type" do
    let _ ← optional forLifetimes
    let _ ← optional (keyword "unsafe")
    let _ ← optional (do keyword "extern"; let _ ← optional text)
    keyword "fn"
    functionTypes p

def typeRule (p : Rules Part) : Parser Tree := do
  skip
  match (← get).peek? with
  | some '&' =>
    tree "reference_type" do
      sign "&"
      let _ ← optional lifetime
      let _ ← optional (keyword "mut")
      return [← p .type]
  | some '*' =>
    tree "pointer_type" do
      sign "*"
      firstOf [keyword "const", keyword "mut"]
      return [← p .type]
  | some '(' => tree "tuple_type" (listOf "(" ")" (p .type))
  | some '[' =>
    tree "array_type" do
      sign "["
      let element ← p .type
      let length ← optional (do sign ";"; p (.expression true))
      sign "]"
      return element :: length.toList
  | some '!' => leaf "never_type" (sign "!")
  | _ =>
    match ← peekWord with
    | "dyn" => tree "dynamic_type" (do keyword "dyn"; bounds p)
    | "impl" => tree "abstract_type" (do keyword "impl"; bounds p)
    | "fn" => functionPointer p
    | "unsafe" => functionPointer p
    | "extern" => functionPointer p
    | "for" =>
        firstOf [functionPointer p,
          tree "higher_ranked_trait_bound" (do forLifetimes; return [← p .type])]
    | _ => typePath p

/-! ## Parameters -/

/-- A parameter of a type or function: a lifetime, a constant, or a type, with bounds
and a default. -/
def typeParameter (p : Rules Part) : Parser Tree :=
  tree "type_parameter" do
    attributes
    let constant ← optional (keyword "const")
    let n ← firstOf [lifetime, name "identifier"]
    let kept ← optional do
      sign ":"
      if constant.isSome then return [← p .type] else bounds p
    let value ← optional do
      sign "="
      if constant.isSome then
        if ← signAhead "\x7b" then p .block else p (.unary false)
      else p .type
    return n :: kept.getD [] ++ value.toList

def typeParameters (p : Rules Part) : Parser (List Tree) := do
  if ← signAhead "<" then listOf "<" ">" (typeParameter p) else return []

def whereClause (p : Rules Part) : Parser (List Tree) := do
  let found ← optional do
    keyword "where"
    let conditions ← many do
      let _ ← optional forLifetimes
      let type ← firstOf [lifetime, p .type]
      sign ":"
      let kept ← bounds p
      let _ ← optional (sign ",")
      return type :: kept
    return conditions.flatten
  return found.getD []

/-- A parameter of a function: a pattern with a type, or the value that a method is
called on. -/
def parameter (p : Rules Part) : Parser Tree :=
  tree "parameter" do
    attributes
    pattern do
      if ← signAhead "::" then return false
      else charAhead fun c => c == ':' || c == ',' || c == ')' || c == '|'
    let type ← optional (do sign ":"; p .type)
    return type.toList

end CodeRetrieval.Grammar.Crate
