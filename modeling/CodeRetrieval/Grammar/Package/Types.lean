import CodeRetrieval.Grammar.Package.Lexis

/-!
# Types of packages

Type expressions, and the signatures of functions, which are lists of types with and
without names.
-/

namespace CodeRetrieval.Grammar.Package

open Syntax

/-- Types between square brackets that a generic type or function is used with. -/
def typeArguments (p : Rules Part) : Parser Tree :=
  tree "type_arguments" (listOf "[" "]" (p .type))

/-- A named type, possibly of another package and possibly with type arguments. -/
def namedType (p : Rules Part) : Parser Tree := do
  skip
  nodeOf do
    let first ← name "type_identifier"
    let member ← optional do
      require (← lookingAt ".")
      take 1
      name "type_identifier"
    let arguments ← optional do
      require (← lookingAt "[")
      typeArguments p
    let path := match member with
      | some m => [{ first with type := "package_identifier" }, m]
      | none => [first]
    return ("named_type", path ++ arguments.toList)

/-- One parameter: a type, or a name with a type, possibly for any number of arguments. -/
def parameter (p : Rules Part) : Parser Tree :=
  let typed := do
    let _ ← optional (sign "...")
    p .type
  tree "parameter_declaration" <|
    firstOf
      [do
        let n ← name "identifier"
        return [n, ← typed],
       do return [← typed]]

def parameters (p : Rules Part) : Parser Tree :=
  tree "parameter_list" (listOf "(" ")" (parameter p))

/-- The parameters and results of a function. Results stand on the line on which the
parameters end. -/
def signature (p : Rules Part) : Parser (List Tree) := do
  let given ← parameters p
  let results ← optional do
    require (!(← newlineAhead))
    if ← signAhead "(" then firstOf [parameters p, p .type] else p .type
  return given :: results.toList

/-- Alternatives that a type argument may come from, possibly with all types of the same
form. -/
def constraint (p : Rules Part) : Parser Tree :=
  tree "type_constraint" do
    let term := do
      let _ ← optional (sign "~")
      p .type
    let first ← term
    let rest ← many (do sign "|"; term)
    return first :: rest

def typeParameters (p : Rules Part) : Parser Tree :=
  tree "type_parameter_list" <| listOf "[" "]" do
    tree "type_parameter_declaration" do
      let first ← name "identifier"
      let rest ← many (do sign ","; name "identifier")
      return first :: rest ++ [← constraint p]

/-- A field of a structure: names with a type, or an embedded type, and possibly a tag. -/
def structField (p : Rules Part) : Parser Tree :=
  tree "field_declaration" do
    let parts ← firstOf
      [do
        let first ← name "field_identifier"
        let rest ← many (do sign ","; name "field_identifier")
        return first :: rest ++ [← p .type],
       do return [← p .type]]
    let _ ← optional (do require (!(← newlineAhead)); quotedText)
    return parts

def interfaceMember (p : Rules Part) : Parser Tree :=
  firstOf
    [tree "method_elem" (do
      let n ← name "field_identifier"
      return n :: (← signature p)),
     constraint p]

def typeRule (p : Rules Part) : Parser Tree := do
  skip
  match (← get).peek? with
  | some '(' => tree "parenthesized_type" (listOf "(" ")" (p .type))
  | some '*' => tree "pointer_type" (do sign "*"; return [← p .type])
  | some '~' => tree "negated_type" (do sign "~"; return [← p .type])
  | some '<' =>
    tree "channel_type" do
      sign "<-"
      keyword "chan"
      return [← p .type]
  | some '[' =>
    tree "array_type" do
      sign "["
      let length ← optional (firstOf [leaf "implicit_length" (sign "..."),
          p (.expression true)])
      sign "]"
      require (!(← newlineAhead))
      return length.toList ++ [← p .type]
  | _ =>
    match ← peekWord with
    | "map" =>
      tree "map_type" do
        keyword "map"
        sign "["
        let key ← p .type
        sign "]"
        return [key, ← p .type]
    | "chan" =>
      tree "channel_type" do
        keyword "chan"
        let _ ← optional (sign "<-")
        return [← p .type]
    | "func" => tree "function_type" (do keyword "func"; signature p)
    | "struct" =>
      tree "struct_type" do
        keyword "struct"
        terminated "\x7b" "\x7d" (structField p)
    | "interface" =>
      tree "interface_type" do
        keyword "interface"
        terminated "\x7b" "\x7d" (interfaceMember p)
    | _ => namedType p

end CodeRetrieval.Grammar.Package
