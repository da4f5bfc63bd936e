import CodeRetrieval.Grammar.Crate.Items
import CodeRetrieval.Grammar.Indented.Statements
import CodeRetrieval.Grammar.Package.Declarations
import CodeRetrieval.Grammar.Script.Statements
import CodeRetrieval.Syntax.Language

/-!
# Syntax trees of source files

The tree of a file in each supported language, for files that keep to the grammar of
their language.
-/

namespace CodeRetrieval.Grammar

def parse : Language → String → Option Syntax.Tree
  | .javascript => Script.parse ⟨false, true⟩
  | .typescript => Script.parse ⟨true, false⟩
  | .tsx => Script.parse ⟨true, true⟩
  | .python => Indented.parse
  | .go => Package.parse
  | .rust => Crate.parse

end CodeRetrieval.Grammar
