import Courier.Document.Yaml.Node

/-!
YAML text as a value. The text holds at most one document.
-/

namespace Courier.Document

/-- A stream without a document is an empty table. -/
def Value.ofYamlText? (text : String) : Option Value := do
  match ← Yaml.Reading.root? (← Yaml.tokens? text.toList) with
  | none => some (.table [])
  | some n => n.value?

end Courier.Document
