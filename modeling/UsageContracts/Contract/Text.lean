import UsageContracts.Contract.Reading
import UsageContracts.Json.Layout
import UsageContracts.Yaml.Read

/-!
# Contracts as text

A contract is read from the text of its document, in YAML or in JSON.
-/

namespace UsageContracts

/-- Why a text is not read as a contract. -/
inductive TextFault
  /-- The text is no document. -/
  | unreadable
  /-- A scalar in the text is impossible, or its content is looked for without end. -/
  | impossible (fault : Yaml.Fault)
  /-- The text holds no document, or only null. -/
  | empty
  /-- The document is no contract. -/
  | contract (fault : ContractFault)
deriving DecidableEq

namespace TextFault

/-- The wording of a fault. -/
def message : TextFault → Text
  | .unreadable => "Invalid policy document: " ++ Yaml.Fault.form.message
  | .impossible fault => fault.message
  | .empty => "Policy document is empty"
  | .contract fault => fault.message

/-- Whether a fault is one that users are told of.  Impossible scalars and
numbers that cannot be written are not. -/
def isReported : TextFault → Bool
  | .impossible _ => false
  | .contract (.unwritable _) => false
  | _ => true

/-- The fault of a contract whose text has the given fault. -/
def ofYaml : Yaml.Fault → TextFault
  | .form => .unreadable
  | fault => .impossible fault

end TextFault

namespace Policy

/-- Read a contract from a value in a graph, which must not be null. -/
def ofDocument (document : Yaml.Document) : Except TextFault Policy :=
  let view := document.graph.view
  if (view.layer document.root).isNull then
    .error .empty
  else
    (Policy.read view document.root).mapError .contract

/-- Read a contract from the text of its document. -/
def ofText (text : Text) : Except TextFault Policy :=
  match Yaml.read text with
  | .error fault => .error (.ofYaml fault)
  | .ok none => .error .empty
  | .ok (some document) => ofDocument document

end Policy

end UsageContracts
