import Assay.Yaml.Draft

/-!
# Reading YAML

A text is cut into tokens, the tokens form a node and the node says a value.
-/

namespace Assay.Yaml

/-- What a node says, unless it has a fault. -/
def Node.value (n : Node) : Except Failure Yaml :=
  let d := Draft.ofNode n
  match d.firstFault? with
  | some f => .error f
  | none => .ok d.value

/-- What a text says. -/
def read (s : Source) : Except Failure Yaml := do
  (← Node.ofTokens (Token.ofSource s)).value

end Assay.Yaml
