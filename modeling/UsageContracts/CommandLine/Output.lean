import UsageContracts.Json.Indent

/-!
# Output of values

How a value is printed: as indented JSON, or line by line in its display form.
-/

namespace UsageContracts

/-- The layout of JSON that is printed. -/
def printedLayout : Layout :=
  .ofSpaces 2

/-- The display form of a value on a line of its own. -/
def displayLine (before : Text) (value : Value) : Except JsonFault Text := do
  let text ← (Value.view.display value).mapError .numeral
  return before ++ text ++ [.scalar '\n']

/-- The lines that show a value: one for each entry of a map or item of a list,
or one for any other value. -/
def displayLines (value : Value) : Except JsonFault Text :=
  match value with
  | .map entries => do
      let lines ← entries.mapM fun (key, content) => do
        let name ← (Value.view.display key).mapError .numeral
        displayLine (name ++ ": ") content
      return lines.flatten
  | .list items => do
      let lines ← items.mapM (displayLine "  ")
      return lines.flatten
  | value => displayLine [] value

/-- What is printed for a value. -/
def output (asJson : Bool) (value : Value) : Except JsonFault Text :=
  if asJson then do
    let json ← value.toJson
    return json.write printedLayout ++ [.scalar '\n']
  else
    displayLines value

end UsageContracts
