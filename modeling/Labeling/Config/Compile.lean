import Labeling.Config.Naming
import Labeling.Config.Numbering
import Labeling.Markup.Reader

/-!
# Compiling a configuration

From the text of a configuration to its nodes: the document is read, expanded against the task
data, numbered and completed with names. Only a malformed document has no result.
-/
namespace Labeling.ConfigTree

/-- The configuration of a document. -/
def ofDocument (context : ExpansionContext) (document : Markup.Element) : ConfigTree :=
  ⟨Naming.completed context.catalogue (Block.nodes none 0 (context.expand [] document))⟩

/-- The configuration that a text writes. -/
def compile? (context : ExpansionContext) (text : String) : Option ConfigTree :=
  (Markup.read? text).map (ofDocument context)

end Labeling.ConfigTree
