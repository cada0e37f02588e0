import SqlOutline.Json.Node
import SqlOutline.Xml.Reader
import SqlOutline.Yaml.Writer
import SqlOutline.Yaml.Decode

/-!
# Exported documents

Nodes and lists of texts are written as JSON, YAML or XML documents, and nodes are read back.

* `Format` : the document formats; `Format.parse` reads the name of one;
* `writeNode`, `writeTexts` : the documents of a node and of a list of texts;
* `readNode` : the node that a document holds.
-/

namespace SqlOutline

/-- A document format. -/
inductive Format where
  | json | yaml | xml
deriving DecidableEq, Repr

namespace Format

/-- The name of a format. -/
def name : Format → String
  | json => "json"
  | yaml => "yaml"
  | xml => "xml"

/-- A name that is no format. -/
structure UnknownFormat where
  /-- The name. -/
  name : String
deriving DecidableEq, Repr

/-- The wording of the error. -/
def UnknownFormat.message (e : UnknownFormat) : String :=
  "unknown output format: " ++ Text.quote e.name

/-- The format with exactly the given name. -/
def ofName (name : String) : Except UnknownFormat Format :=
  match [json, yaml, xml].find? (·.name == name) with
  | some f => .ok f
  | none => .error ⟨name⟩

/-- Reads the name of a format in any letter case. -/
def parse (name : String) : Except UnknownFormat Format :=
  match Text.lower name with
  | "json" => .ok json
  | "yaml" => .ok yaml
  | "yml" => .ok yaml
  | "xml" => .ok xml
  | _ => .error ⟨name⟩

end Format

/-- Why a node has no document. -/
inductive WriteError where
  /-- The JSON text of the node nests too deep. -/
  | tooDeep (e : Json.TooDeep)
deriving DecidableEq, Repr

/-- The wording of a writing error. -/
def WriteError.message : WriteError → String
  | tooDeep e => "failed to encode JSON: " ++ e.message

/-- The document of a node. -/
def writeNode (format : Format) (pretty : Bool) (node : Node) : Except WriteError String :=
  match format with
  | .json => (Json.encode { pretty } node).mapError .tooDeep
  | .yaml => .ok (Yaml.render (Yaml.ofNode node))
  | .xml => .ok (Xml.render pretty (Xml.ofNode node))

/-- The document of a list of texts. -/
def writeTexts (format : Format) (pretty : Bool) (texts : List String) : String :=
  match format with
  | .json => Json.render { pretty, escapeMarkup := false } (.array (texts.map .string))
  | .yaml => Yaml.render (Yaml.ofTexts texts)
  | .xml => Xml.render pretty (Xml.ofTexts texts)

/-- Why a document holds no node. -/
inductive ReadError where
  /-- The text is no document of the format, or a member has the wrong type. -/
  | malformed (format : Format)
  /-- No element at the top of an XML document is called `node`. -/
  | noNode
  /-- The attribute `is_group` is no truth value. -/
  | badFlag
  /-- A child of a YAML group is missing. -/
  | missingChild
deriving DecidableEq, Repr

/-- The wording of a reading error. -/
def ReadError.message : ReadError → String
  | malformed .json => "failed to decode JSON"
  | malformed .yaml => "failed to decode YAML"
  | malformed .xml => "failed to decode XML"
  | noNode => "no node element found"
  | badFlag => "invalid attribute value: is_group"
  | missingChild => "a child of a group is missing"

/-- The node that a document holds. -/
def readNode (format : Format) (data : String) : Except ReadError Node :=
  match format with
  | .json =>
    match (Json.parse data).bind Json.toNode? with
    | some node => .ok node
    | none => .error (.malformed .json)
  | .yaml =>
    match Yaml.readNode data with
    | .ok node => .ok node
    | .error .malformed => .error (.malformed .yaml)
    | .error .missingChild => .error .missingChild
  | .xml =>
    match Xml.readNode data with
    | .ok node => .ok node
    | .error .malformed => .error (.malformed .xml)
    | .error .noNode => .error .noNode
    | .error .badFlag => .error .badFlag

end SqlOutline
