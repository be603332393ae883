import Flowline.Value.Literal

/-!
Issues: what is wrong with a value that should have the shape of a model, and where in it.
-/

namespace Flowline.Schema

/-- A part of a place in a value: a name or a number. -/
inductive LocationPart where
  | name (s : String)
  | index (n : Int)
  deriving DecidableEq, Repr

inductive IssueKind where
  | missing
  | extraForbidden
  | invalidKey
  | stringType
  | stringUnicode
  | intType
  | intParsing
  | intParsingSize
  | intFromFloat
  | floatType
  | floatParsing
  | finiteNumber
  | greaterThan (bound : Nat)
  | greaterThanEqual (bound : Nat)
  | lessThanEqual (bound : Nat)
  | tupleType
  | dictType
  | tooShort (least actual : Nat)
  | modelType (model : String)
  | modelAttributesType
  | unionTagNotFound (discriminator : String)
  | unionTagInvalid (discriminator tag : String) (expected : List String)
  | literalError (expected : List String)
  | valueError (text : String)
  deriving DecidableEq, Repr

/-- The name of the kind of an issue. -/
def IssueKind.name : IssueKind → String
  | missing => "missing"
  | extraForbidden => "extra_forbidden"
  | invalidKey => "invalid_key"
  | stringType => "string_type"
  | stringUnicode => "string_unicode"
  | intType => "int_type"
  | intParsing => "int_parsing"
  | intParsingSize => "int_parsing_size"
  | intFromFloat => "int_from_float"
  | floatType => "float_type"
  | floatParsing => "float_parsing"
  | finiteNumber => "finite_number"
  | greaterThan _ => "greater_than"
  | greaterThanEqual _ => "greater_than_equal"
  | lessThanEqual _ => "less_than_equal"
  | tupleType => "tuple_type"
  | dictType => "dict_type"
  | tooShort .. => "too_short"
  | modelType _ => "model_type"
  | modelAttributesType => "model_attributes_type"
  | unionTagNotFound _ => "union_tag_not_found"
  | unionTagInvalid .. => "union_tag_invalid"
  | literalError _ => "literal_error"
  | valueError _ => "value_error"

def singleQuoted (s : String) : String := "'" ++ s ++ "'"

/-- Alternatives in words: commas between them and a word before the last one. -/
def orList : List String → String
  | [] => ""
  | [a] => a
  | [a, b] => a ++ " or " ++ b
  | a :: rest => a ++ ", " ++ orList rest

def IssueKind.message : IssueKind → String
  | missing => "Field required"
  | extraForbidden => "Extra inputs are not permitted"
  | invalidKey => "Keys should be strings"
  | stringType => "Input should be a valid string"
  | stringUnicode => "Input should be a valid string, unable to parse raw data as a unicode string"
  | intType => "Input should be a valid integer"
  | intParsing => "Input should be a valid integer, unable to parse string as an integer"
  | intParsingSize => "Unable to parse input string as an integer, exceeded maximum size"
  | intFromFloat => "Input should be a valid integer, got a number with a fractional part"
  | floatType => "Input should be a valid number"
  | floatParsing => "Input should be a valid number, unable to parse string as a number"
  | finiteNumber => "Input should be a finite number"
  | greaterThan bound => s!"Input should be greater than {bound}"
  | greaterThanEqual bound => s!"Input should be greater than or equal to {bound}"
  | lessThanEqual bound => s!"Input should be less than or equal to {bound}"
  | tupleType => "Input should be a valid tuple"
  | dictType => "Input should be a valid dictionary"
  | tooShort least actual =>
      let items := if least = 1 then "item" else "items"
      s!"Tuple should have at least {least} {items} after validation, not {actual}"
  | modelType model => "Input should be a valid dictionary or instance of " ++ model
  | modelAttributesType => "Input should be a valid dictionary or object to extract fields from"
  | unionTagNotFound discriminator =>
      "Unable to extract tag using discriminator " ++ singleQuoted discriminator
  | unionTagInvalid discriminator tag expected =>
      "Input tag " ++ singleQuoted tag ++ " found using " ++ singleQuoted discriminator ++
        " does not match any of the expected tags: " ++
        ", ".intercalate (expected.map singleQuoted)
  | literalError expected => "Input should be " ++ orList (expected.map singleQuoted)
  | valueError text => "Value error, " ++ text

structure Issue where
  location : List LocationPart
  kind : IssueKind
  deriving DecidableEq, Repr

/-- Whether an integer fits 64 bits. -/
def isLong (n : Int) : Bool := -(Number.twoTo 63 : Int) ≤ n && n < Number.twoTo 63

/-- The part of a place that the key of a mapping gives: a text by itself, an integer by its number,
anything else in literal notation. -/
def LocationPart.ofKey : Value → LocationPart
  | .text s => .name s
  | .bool b => .index (if b then 1 else 0)
  | .int n => if isLong n then .index n else .name (toString n)
  | v => .name v.literal

def LocationPart.text : LocationPart → String
  | name s => s
  | index n => toString n

/-- An issue on one line: its place and its message. -/
def Issue.text (i : Issue) : String :=
  ".".intercalate (i.location.map (·.text)) ++ ": " ++ i.kind.message

end Flowline.Schema
