import SpatialFilter.File
import SpatialFilter.Registry
import SpatialFilter.Yaml.Document

/-! The YAML form of registries: a list of bindings under `properties`. -/
namespace SpatialFilter
open Yaml

namespace ValueType

def ofYaml (v : Value) : Decoder ValueType := do
  match ofName? (← Decoder.choice v) with
  | some valueType => return valueType
  | none => Decoder.fail

end ValueType

namespace Binding

def ofYaml (v : Value) : Decoder Binding := do
  match ← Decoder.fields ["name","namespace","table","column","expression","types"] v with
  | [some name,uri,some table,some column,expression,types] =>
    return ⟨← Decoder.text name,← Decoder.defaulted Decoder.optionalText none uri,
      ← Decoder.text table,← Decoder.text column,
      ← Decoder.defaulted Decoder.optionalText none expression,
      ← Decoder.defaulted (fun v => do (← Decoder.items v).mapM ValueType.ofYaml) [] types⟩
  | _ => Decoder.fail

end Binding

namespace Registry

def bindingsOfYaml (v : Value) : Decoder (List Binding) := do
  match ← Decoder.fields ["properties"] v with
  | [properties] =>
    Decoder.defaulted (fun v => do (← Decoder.items v).mapM Binding.ofYaml) [] properties
  | _ => Decoder.fail

def ofYamlText? (text : String) : Option Registry :=
  (Decoder.decode? bindingsOfYaml text).map ofList

def load (file : FileState) : Except LoadError Registry := file.load ofYamlText?

def loadErrorText (words : String → String) : LoadError → String
  | .unreadable cause => "Failed to read property file: " ++ cause.message
  | .malformed text => "Failed to parse YAML: " ++ words text

end Registry
end SpatialFilter
