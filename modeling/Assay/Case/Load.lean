import Assay.Case.Decode
import Assay.Decode.Format
import Assay.Host.Fault
import Assay.Path
import Assay.Toml.Document
import Assay.Yaml.Document

/-!
# Loading case files

The text of a case file is in YAML or in TOML, which the extension of its name says. Loading reads
it, decodes it, and puts in the place of each test with values its repetitions. The text of a
suite's settings is always in YAML.
-/

namespace Assay

/-- The languages that case files are written in. -/
inductive Language where
  | yaml
  | toml
deriving DecidableEq

namespace Language

/-- The language's name. -/
def name : Language → String
  | .yaml => "YAML"
  | .toml => "TOML"

/-- The language that an extension stands for. -/
def ofExtension? (extension : String) : Option Language :=
  if extension = "yaml" || extension = "yml" then some .yaml
  else if extension = "toml" then some .toml
  else none

/-- How the language is decoded. -/
def format : Language → Decode.Format
  | .yaml => Decode.yaml
  | .toml => Decode.toml

end Language

/-- Why a file cannot be loaded. -/
inductive LoadFault where
  | unreadable (reason : Host.Fault)
  | unsupported (extension : String)
  /-- The text is no YAML. -/
  | malformedYaml (fault : Yaml.Fault)
  /-- The text is no TOML. -/
  | malformedToml
  /-- The data are not what they should be; `readable` says whether every part of the document has a
  value. -/
  | undecodable (language : Language) (fault : Decode.Fault) (readable : Bool)

namespace LoadFault

/-- What a fault says beyond its kind. -/
def detail : LoadFault → String
  | .unreadable reason => reason.message
  | .unsupported extension => extension ++ " (expected .yaml, .yml, or .toml)"
  | .malformedYaml fault => fault.message
  | .malformedToml => "malformed document"
  | .undecodable language fault _ => fault.message language.format.wording

/-- A fault in words. -/
def message (f : LoadFault) : String :=
  match f with
  | .unreadable _ => "failed to read file: " ++ f.detail
  | .unsupported _ => "unsupported file format: " ++ f.detail
  | .malformedYaml _ => "invalid " ++ Language.yaml.name ++ ": " ++ f.detail
  | .malformedToml => "invalid " ++ Language.toml.name ++ ": " ++ f.detail
  | .undecodable l _ _ => "invalid " ++ l.name ++ ": " ++ f.detail

end LoadFault

namespace Load

/-- Decodes a text of YAML. Of a malformed text the part in front of its fault is decoded too, and a
value that is not what it should be is reported before the fault. -/
def decodeYaml {α : Type} (read : Decode.Format → Decode.Reader α) (text : String) :
    Except LoadFault α :=
  let d := Yaml.Document.ofText text
  match (read Decode.yaml).run d.content d.references, d.fault with
  | .ok a, none => .ok a
  | .ok _, some malformed => .error (.malformedYaml malformed)
  | .error fault, some malformed =>
    .error (if fault.isBreak then .malformedYaml malformed else .undecodable .yaml fault false)
  | .error fault, none => .error (.undecodable .yaml fault d.isReadable)

/-- Decodes a text of TOML. -/
def decodeToml {α : Type} (read : Decode.Format → Decode.Reader α) (text : String) :
    Except LoadFault α :=
  match Toml.parse? text with
  | none => .error .malformedToml
  | some d =>
    match (read Decode.toml).run d with
    | .ok a => .ok a
    | .error fault => .error (.undecodable .toml fault true)

/-- Decodes a text of a language. -/
def decode {α : Type} (l : Language) (read : Decode.Format → Decode.Reader α) (text : String) :
    Except LoadFault α :=
  match l with
  | .yaml => decodeYaml read text
  | .toml => decodeToml read text

/-- The case file that a text at a path writes. -/
def caseFile (path : Path) (text : String) : Except LoadFault CaseFile :=
  let extension := path.extension?.getD ""
  match Language.ofExtension? extension with
  | none => .error (.unsupported extension)
  | some l =>
    (decode l Case.file text).map fun f => { f with tests := expandEach f.tests }

/-- The settings that a text writes. -/
def config (text : String) : Except LoadFault SuiteConfig :=
  decode .yaml Case.config text

end Load

end Assay
