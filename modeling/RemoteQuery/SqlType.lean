import RemoteQuery.Number.Numeral
import RemoteQuery.Text.Blank
import RemoteQuery.Text.Casing
import RemoteQuery.Text.Cut

/-!
# Declared types and how their values are stored

The service declares a column by a text such as `decimal(10,2)`. The part before the first
parenthesis names the type; the arguments matter for decimals only. A text that names no known type
is kept as it is, in lower case and without outer blanks, and its values stay text.
-/
namespace RemoteQuery

inductive SqlType
  | boolean
  | tinyint
  | smallint
  | integer
  | bigint
  | float
  | double
  | decimal (precision : Nat) (scale : Int)
  | char
  | varchar
  | date
  | timestamp
  | json
  | array
  | map
  | row
  | varbinary
  | other (name : String)
  deriving DecidableEq, Repr

inductive ArrowType
  | boolean
  | int8
  | int16
  | int32
  | int64
  | float32
  | float64
  | decimal128 (precision : Nat) (scale : Int)
  | date32
  | timestampMicros
  | binary
  | utf8
  deriving DecidableEq, Repr

def ArrowType.describe : ArrowType → String
  | boolean => "Boolean"
  | int8 => "Int8"
  | int16 => "Int16"
  | int32 => "Int32"
  | int64 => "Int64"
  | float32 => "Float32"
  | float64 => "Float64"
  | decimal128 precision scale =>
    "Decimal128(" ++ toString precision ++ ", " ++ toString scale ++ ")"
  | date32 => "Date32"
  | timestampMicros => "Timestamp(Microsecond, None)"
  | binary => "Binary"
  | utf8 => "Utf8"

namespace SqlType

/-- The most digits that a decimal can have. -/
def maxPrecision : Nat := 38

def display : SqlType → String
  | boolean => "boolean"
  | tinyint => "tinyint"
  | smallint => "smallint"
  | integer => "integer"
  | bigint => "bigint"
  | float => "float"
  | double => "double"
  | decimal precision scale => "decimal(" ++ toString precision ++ "," ++ toString scale ++ ")"
  | char => "char"
  | varchar => "varchar"
  | date => "date"
  | timestamp => "timestamp"
  | json => "json"
  | array => "array"
  | map => "map"
  | row => "row"
  | varbinary => "varbinary"
  | other name => name

def arrow : SqlType → ArrowType
  | boolean => .boolean
  | tinyint => .int8
  | smallint => .int16
  | integer => .int32
  | bigint => .int64
  | float => .float32
  | double => .float64
  | decimal precision scale => .decimal128 precision scale
  | date => .date32
  | timestamp => .timestampMicros
  | varbinary => .binary
  | char | varchar | json | array | map | row | other _ => .utf8

/-- The decimal type nearest to the given sizes: an unknown precision is the largest, and the scale
lies between zero and the precision. -/
def clampedDecimal (precision scale : Int) : SqlType :=
  let digits : Nat := if precision ≤ 0 then maxPrecision else min precision.toNat maxPrecision
  decimal digits (max 0 (min scale digits))

/-- Precision and scale between the parentheses; a scale that is left out is zero. -/
def decimalArguments? (arguments : List Char) : Option (Int × Int) := do
  let (precision, scale) := (Text.cut? (· == ',') arguments).getD (arguments, ['0'])
  return (← Number.signed? 32 (Text.trim precision), ← Number.signed? 32 (Text.trim scale))

/-- The types that have no arguments, by all the names that they go by. -/
def simpleNames : List (String × SqlType) :=
  [("boolean", boolean), ("tinyint", tinyint), ("smallint", smallint), ("integer", integer),
    ("int", integer), ("bigint", bigint), ("float", float), ("real", float), ("double", double),
    ("char", char), ("varchar", varchar), ("string", varchar), ("date", date),
    ("timestamp", timestamp), ("json", json), ("array", array), ("map", map), ("row", row),
    ("struct", row), ("varbinary", varbinary)]

def normalized (declared : String) : List Char := Text.lower (Text.trim declared.toList)

/-- The name before the first parenthesis, and the arguments without the parentheses that end the
text. -/
def splitArguments (text : List Char) : List Char × Option (List Char) :=
  match Text.cut? (· == '(') text with
  | none => (text, none)
  | some (name, rest) => (Text.trim name, some (rest.reverse.dropWhile (· == ')')).reverse)

/-- The type that a text declares. The sizes that go with it count for a decimal whose text gives no
sizes. -/
def ofDeclared (declared : String) (precision scale : Int) : SqlType :=
  let text := normalized declared
  let (name, arguments) := splitArguments text
  if name = "decimal".toList then
    match arguments.bind decimalArguments? with
    | some (precision, scale) => clampedDecimal precision scale
    | none => clampedDecimal precision scale
  else
    match simpleNames.find? fun entry => entry.1.toList == name with
    | some (_, type) => type
    | none => other (String.ofList text)

end SqlType

end RemoteQuery
