import Assay.Decode.Reader

/-!
# The three formats

How JSON, TOML and YAML decide what `Format` leaves open. In YAML a record is always a mapping, and
a variant may be given by a tag of its name.
-/

namespace Assay.Decode

/-- How JSON is read. -/
def json : Format :=
  { wording := { unit := "null", float := fun x => x.renderScaled, places := false }
    records := true
    strict := true
    variant := jsonVariant }

/-- The type of a TOML value in words. -/
def tomlType : Datum → String
  | .scalar (.exact (.bool _)) => "boolean"
  | .scalar (.exact (.int _)) => "integer"
  | .scalar (.exact (.float _)) => "float"
  | .scalar _ | .ref _ | .cut => "string"
  | .seq .. => "array"
  | .map .. => "table"

/-- The variant that a string names, or the only key of a table whose value is empty. -/
def tomlVariant (d : Datum) : Except Cause Variant :=
  match d with
  | .scalar (.exact (.str name)) => .ok { name, payload := none }
  | .map [] _ => .error (.notOneKey true)
  | .map [(.scalar (.exact (.str name)), payload)] _ =>
    .ok {
      name
      payload := match payload with
        | .seq [] _ | .map [] _ => none
        | .seq .. => some (.payload "expected empty array")
        | .map .. => some (.payload "expected empty table")
        | d => some (.payload ("expected table, found " ++ tomlType d)) }
  | .map .. => .error (.notOneKey false)
  | _ => .error (.payload "wanted string or table")

/-- How TOML is read. -/
def toml : Format :=
  { wording := { unit := "unit value", float := fun x => x.render, places := false }
    records := true
    strict := false
    variant := tomlVariant }

/-- The variant that a scalar names by its text, or anything by its tag. What has the tag must then
be nothing. -/
def yamlVariant (d : Datum) : Except Cause Variant :=
  match d with
  | .scalar s =>
    match s with
    | .written text _ tag =>
      match localTag? tag with
      | some name =>
        .ok {
          name
          payload := if s.isUnit then none else some (.wrongValue (.atom (.str text)) "null")
          tagged := true }
      | none => .ok { name := text, payload := none }
    | .exact _ => .error (wrongType d "a YAML tag starting with '!'")
  | .seq _ tag | .map _ tag =>
    match localTag? tag with
    | some name => .ok { name, payload := some (wrongType d "unit"), tagged := true }
    | none => .error (wrongType d "a YAML tag starting with '!'")
  | .ref _ | .cut => .error .brokenOff

/-- How YAML is read. -/
def yaml : Format :=
  { wording := { unit := "unit value", float := fun x => x.render, places := true }
    records := false
    strict := false
    variant := yamlVariant }

end Assay.Decode
