import TabularReport.Document.Scalars
import TabularReport.Filter.Document
import TabularReport.Parameter.Basic

/-!
# Parameters as documents
-/

namespace TabularReport

/-- The spellings of the kinds of parameters. -/
def ParameterKind.variants : List (String × ParameterKind) :=
  [("text", .text), ("number", .number), ("date", .date), ("date_range", .dateRange),
    ("boolean", .boolean), ("select", .select), ("multi_select", .multiSelect),
    ("entity_ref", .entityRef)]

/-- Read a kind of parameter. -/
def ParameterKind.reader : Reader ParameterKind := Reader.oneOf ParameterKind.variants

/-- How a kind of parameter is written. -/
def ParameterKind.spelling : ParameterKind → String
  | .text => "text"
  | .number => "number"
  | .date => "date"
  | .dateRange => "date_range"
  | .boolean => "boolean"
  | .select => "select"
  | .multiSelect => "multi_select"
  | .entityRef => "entity_ref"

/-- Read an option. -/
def SelectOption.reader : Reader SelectOption :=
  Reader.record "SelectOption" <|
    SelectOption.mk <$> .required "value" Reader.json <*> .optional "label" Reader.string

/-- Write an option. -/
def SelectOption.toJson (o : SelectOption) : Json :=
  .object <| [("value", o.value)] ++ Json.entryIfSome "label" .string o.label

/-- Read constraints. -/
def ValueRules.reader : Reader ValueRules :=
  Reader.record "ValidationRules" <|
    ValueRules.mk <$> .optional "min" Reader.float
      <*> .optional "max" Reader.float
      <*> .optional "minLength" Reader.size
      <*> .optional "maxLength" Reader.size
      <*> .optional "pattern" Reader.string

/-- Write constraints. -/
def ValueRules.toJson (r : ValueRules) : Json :=
  .object <|
    Json.entryIfSome "min" .ofFloat r.min ++ Json.entryIfSome "max" .ofFloat r.max ++
      Json.entryIfSome "minLength" .ofNat r.minLength ++
      Json.entryIfSome "maxLength" .ofNat r.maxLength ++ Json.entryIfSome "pattern" .string r.pattern

/-- Read the declaration of a parameter. -/
def ParameterDefinition.reader : Reader ParameterDefinition :=
  Reader.record "ParameterDefinition" <|
    ParameterDefinition.mk <$> .required "name" Reader.string
      <*> .defaulted "displayName" Reader.string ""
      <*> .required "type" ParameterKind.reader
      <*> .optional "defaultValue" Reader.json
      <*> .defaulted "required" Reader.bool false
      <*> .defaulted "validation" ValueRules.reader {}
      <*> .defaulted "options" (Reader.list SelectOption.reader) []
      <*> .optional "entity" Reader.string
      <*> .defaulted "position" Reader.rank 0

/-- Write the declaration of a parameter. -/
def ParameterDefinition.toJson (p : ParameterDefinition) : Json :=
  .object <|
    [("name", .string p.name), ("displayName", .string p.displayName), ("type", .string p.kind.spelling)] ++
      Json.entryIfSome "defaultValue" id p.defaultValue ++
      [("required", .bool p.required), ("validation", p.rules.toJson),
        ("options", .array (p.options.map SelectOption.toJson))] ++
      Json.entryIfSome "entity" .string p.entity ++ [("position", .ofNat p.position)]

end TabularReport
