import CircuitDispatch.Config.Environment
import CircuitDispatch.Yaml.Typed

/-!
# Configurations from files

A file holds one YAML document: nothing, or a mapping of fields to scalars. A
family is forced by a tag, as in `!force iqm`. Fields that the file leaves out
keep their defaults, fields of other names are skipped, and a field given twice
is refused.
-/

namespace CircuitDispatch

namespace FamilyChoice

/-- The name behind a tag of the document's own. -/
def ownTag? (s : Yaml.Scalar) : Option String :=
  match s.tag.map String.toList with
  | some ('!' :: name) => some (String.ofList name)
  | _ => none

/-- The choice that a scalar writes. -/
def ofScalar? (s : Yaml.Scalar) : Option FamilyChoice :=
  match ownTag? s with
  | none => if s.text = "auto" then some .auto else none
  | some name =>
    if name = "auto" then if s.isNull then some .auto else none
    else if name = "force" then (Family.byName.lookup s.text).map .force
    else none

end FamilyChoice

namespace Config

/-- The fields of a mapping, whose keys must be scalars. -/
def yamlFields? (d : Yaml.Document) (entries : List (Yaml.Node × Yaml.Node)) :
    Option (List (String × Yaml.Node)) :=
  entries.mapM fun (key, value) => (d.scalar? key).map fun k => (k.text, value)

/-- A field of a mapping, or a given value if it is left out. -/
def yamlField? {α : Type} (d : Yaml.Document) (fields : List (String × Yaml.Node)) (name : String)
    (read : Yaml.Scalar → Option α) (unset : α) : Option α :=
  match fields.filter (fun f => f.1 = name) with
  | [] => some unset
  | [(_, node)] => (d.scalar? node).bind read
  | _ => none

/-- The configuration that the entries of a document's mapping write. -/
def ofEntries? (d : Yaml.Document) (entries : List (Yaml.Node × Yaml.Node)) : Option Config := do
  let fields ← yamlFields? d entries
  let field {α : Type} (name : String) (read : Yaml.Scalar → Option α) (unset : α) : Option α :=
    yamlField? d fields name read unset
  return {
    device := ← field "device" (fun s => some s.text) standard.device
    verbatimMode := ← field "verbatim_mode" Yaml.Scalar.bool? standard.verbatimMode
    batchMode := ← field "batch_mode" Yaml.Scalar.bool? standard.batchMode
    allowHardware := ← field "allow_hardware" Yaml.Scalar.bool? standard.allowHardware
    maxShots := ← field "max_shots" Yaml.Scalar.nat? standard.maxShots
    maxCircuitLength := ←
      field "max_circuit_length" Yaml.Scalar.nat? standard.maxCircuitLength
    family := ← field "translation" FamilyChoice.ofScalar? standard.family
  }

/-- The configuration that a text in YAML writes. -/
def ofYaml? (text : String) : Option Config := do
  let d ← Yaml.Document.read? text
  match d.root.map Yaml.Node.content with
  | none => return standard
  | some (.scalar s) => if s.style = .plain && s.text.isEmpty then return standard else none
  | some (.mapping entries) => ofEntries? d entries
  | some _ => none

/-- What became of reading a file. -/
inductive FileContent where
  /-- There is no such file. -/
  | missing
  | bytes (content : ByteArray)

/-- The configuration in a file. -/
def ofFile (file : FileContent) : Except ConfigError Config := do
  match file with
  | .missing => .error (.unreadable "No such file or directory (os error 2)")
  | .bytes content =>
    match String.fromUTF8? content with
    | none => .error (.unreadable "stream did not contain valid UTF-8")
    | some text =>
      match ofYaml? text with
      | none => .error (.malformed "no configuration")
      | some config =>
        config.validate
        return config

/-- The configuration of a file, if one is given, under the environment. -/
def load (file : Option FileContent) (env : Environment) : Except ConfigError Config := do
  let base ← match file with
    | some file => ofFile file
    | none => .ok standard
  let config ← base.withEnvironment env
  config.validate
  return config

end Config

end CircuitDispatch
