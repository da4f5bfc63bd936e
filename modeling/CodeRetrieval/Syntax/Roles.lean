import CodeRetrieval.Chunk.Kind
import CodeRetrieval.Syntax.Language

/-!
# Roles of syntax nodes

Which nodes define a unit, and of what kind; which nodes are calls, and how the called
name is found from a call; which nodes are names, markup elements, or scopes of methods.
-/

namespace CodeRetrieval.Syntax

def scriptKinds : List (String × ChunkKind) :=
  [("function_declaration", .function), ("generator_function_declaration", .function),
   ("function_expression", .function), ("arrow_function", .function),
   ("method_definition", .method), ("class_declaration", .class_)]

def typedScriptKinds : List (String × ChunkKind) :=
  scriptKinds ++
    [("method_signature", .method), ("abstract_class_declaration", .class_),
     ("interface_declaration", .interface), ("type_alias_declaration", .interface),
     ("enum_declaration", .constant)]

/-- The node types of a language that define a unit, each with the kind of the unit. -/
def definitionKinds : Language → List (String × ChunkKind)
  | .javascript => scriptKinds
  | .typescript | .tsx => typedScriptKinds
  | .python => [("function_definition", .function), ("class_definition", .class_)]
  | .go =>
    [("function_declaration", .function), ("method_declaration", .method),
     ("type_declaration", .interface)]
  | .rust =>
    [("function_item", .function), ("impl_item", .method), ("struct_item", .class_),
     ("enum_item", .constant), ("trait_item", .interface)]

/-- The kind of unit that a node type defines. -/
def kindOf? (language : Language) (type : String) : Option ChunkKind :=
  (definitionKinds language).lookup type

/-- Nodes that scope methods although they define no class. -/
def scopingTypes : List String :=
  ["impl_item", "trait_item"]

/-- A unit of the given kind and node type makes the functions directly inside it
methods. -/
def isContainer (kind : ChunkKind) (type : String) : Bool :=
  kind == .class_ || scopingTypes.contains type

def rendersMarkup (language : Language) : Bool :=
  language == .javascript || language == .tsx

def markupTypes : List String :=
  ["jsx_element", "jsx_self_closing_element", "jsx_fragment"]

/-- Calls, each with the field that holds the called expression. -/
def calleeFields : List (String × String) :=
  [("call", "function"), ("call_expression", "function"), ("new_expression", "constructor")]

/-- Expressions that name a member, each with the field that holds the member's name. -/
def memberFields : List (String × String) :=
  [("attribute", "attribute"), ("member_expression", "property"),
   ("selector_expression", "field"), ("field_expression", "field"),
   ("scoped_identifier", "name")]

def nameTypes : List String :=
  ["identifier", "type_identifier", "property_identifier", "field_identifier"]

end CodeRetrieval.Syntax
