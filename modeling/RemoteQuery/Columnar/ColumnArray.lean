import RemoteQuery.Calendar.Timestamp
import RemoteQuery.Columnar.Decimal
import RemoteQuery.Error
import RemoteQuery.Number.BinaryFloat
import RemoteQuery.SqlType
import RemoteQuery.Text.Hex

/-!
# Arrays of values

A column of texts becomes an array of values of the column's type. Each cell is read by itself and a
NULL stays a NULL; the first cell that cannot be read is the error of the column.

There is no result at all where the count of a date or of a timestamp does not fit 64 bits, and
where the bytes of a column are more than the offsets of its array can count.
-/
namespace RemoteQuery.Columnar

inductive Value
  | boolean (value : Bool)
  /-- An integer, the digits of a decimal, a day number, or a count of microseconds. -/
  | integer (value : Int)
  | float (value : Number.FloatValue)
  | bytes (value : List UInt8)
  | text (value : String)
  deriving DecidableEq, Repr

/-- The bytes that a value adds to those of an array whose values differ in length. -/
def Value.size : Value → Nat
  | bytes value => value.length
  | text value => value.utf8ByteSize
  | boolean _ | integer _ | float _ => 0

structure ColumnArray where
  type : ArrowType
  values : List (Option Value)
  deriving DecidableEq, Repr

def ColumnArray.nullCount (array : ColumnArray) : Nat := array.values.countP Option.isNone

inductive Fault
  | notOfType (typeName text : String)
  | notBoolean (lowered : String)
  | decimal (fault : DecimalFault)
  | date (text : String)
  | dateRange (text : String)
  | timestamp (text : String)
  | hex (text : String)
  | zeroPrecision
  | precisionBound (precision : Nat)
  | scaleBound (scale : Int)
  | scaleAbovePrecision (scale : Int) (precision : Nat)
  | nullForbidden
  deriving DecidableEq, Repr

def Fault.message : Fault → String
  | notOfType typeName text => "Invalid " ++ typeName ++ " value: " ++ text
  | notBoolean lowered => "Expected boolean, got: " ++ lowered
  | decimal fault => fault.message
  | date text => "Invalid date: " ++ text
  | dateRange text => "Date out of range: " ++ text
  | timestamp text => "Invalid timestamp: " ++ text
  | hex text => "Invalid hex bytes: " ++ text
  | zeroPrecision => "Invalid argument error: precision cannot be 0, has to be between [1, 38]"
  | precisionBound precision =>
    "Invalid argument error: precision " ++ toString precision ++ " is greater than max 38"
  | scaleBound scale =>
    "Invalid argument error: scale " ++ toString scale ++ " is greater than max 38"
  | scaleAbovePrecision scale precision =>
    "Invalid argument error: scale " ++ toString scale ++ " is greater than precision "
      ++ toString precision
  | nullForbidden => "NULL in a NOT NULL column"

def readSigned (bits : Nat) (typeName text : String) : Except Fault Value :=
  match Number.signed? bits (Text.trim text.toList) with
  | some value => .ok (.integer value)
  | none => .error (.notOfType typeName text)

def readFloat (layout : Number.FloatLayout) (typeName text : String) : Except Fault Value :=
  match Number.FloatValue.read? layout (Text.trim text.toList) with
  | some value => .ok (.float value)
  | none => .error (.notOfType typeName text)

def readBoolean (text : String) : Except Fault Value :=
  let lowered := Text.lower (Text.trim text.toList)
  if lowered = "true".toList then .ok (.boolean true)
  else if lowered = "false".toList then .ok (.boolean false)
  else .error (.notBoolean (String.ofList lowered))

/-- Day numbers have 32 bits. -/
def readDate (text : String) : Except Fault Value :=
  match Calendar.readDate? (Text.trim text.toList) with
  | none => .error (.date text)
  | some day => if Number.InSignedRange 32 day then .ok (.integer day) else .error (.dateRange text)

def readCell (type : SqlType) (text : String) : Except Fault Value :=
  match type with
  | .boolean => readBoolean text
  | .tinyint => readSigned 8 "tinyint" text
  | .smallint => readSigned 16 "smallint" text
  | .integer => readSigned 32 "integer" text
  | .bigint => readSigned 64 "bigint" text
  | .float => readFloat .binary32 "float" text
  | .double => readFloat .binary64 "double" text
  | .decimal precision scale =>
    match readDecimal precision scale (Text.trim text.toList) with
    | .ok value => .ok (.integer value)
    | .error fault => .error (.decimal fault)
  | .date => readDate text
  | .timestamp =>
    match Calendar.readTimestamp? (Text.trim text.toList) with
    | some micros => .ok (.integer micros)
    | none => .error (.timestamp text)
  | .varbinary =>
    match Text.Hex.decode? text with
    | some bytes => .ok (.bytes bytes)
    | none => .error (.hex text)
  | .char | .varchar | .json | .array | .map | .row | .other _ => .ok (.text text)

/-- What the columnar format asks of a decimal's precision and scale. -/
def typeFault? : SqlType → Option Fault
  | .decimal precision scale =>
    if precision = 0 then some .zeroPrecision
    else if SqlType.maxPrecision < precision then some (.precisionBound precision)
    else if (SqlType.maxPrecision : Int) < scale then some (.scaleBound scale)
    else if 0 < scale ∧ (precision : Int) < scale then some (.scaleAbovePrecision scale precision)
    else none
  | _ => none

/-- The type of the array that is built for the values of a type. -/
def builtType : SqlType → ArrowType
  | .boolean => .boolean
  | .tinyint => .int8
  | .smallint => .int16
  | .integer => .int32
  | .bigint => .int64
  | .float => .float32
  | .double => .float64
  | .decimal precision scale => .decimal128 precision scale
  | .date => .date32
  | .timestamp => .timestampMicros
  | .varbinary => .binary
  | .char | .varchar | .json | .array | .map | .row | .other _ => .utf8

/-- The values of the cells from row `row` on, or the first fault with its row. -/
def readCells (type : SqlType) (row : Nat) (values : List (Option Value)) :
    List (Option String) → Except (Nat × Fault) (List (Option Value))
  | [] => .ok values.reverse
  | none :: cells => readCells type (row + 1) (none :: values) cells
  | some text :: cells =>
    match readCell type text with
    | .ok value => readCells type (row + 1) (some value :: values) cells
    | .error fault => .error (row, fault)

def conversionError (column : String) (fault : Nat × Fault) : DataError :=
  .conversion fault.1 column fault.2.message

def buildArray (type : SqlType) (cells : List (Option String)) (column : String) :
    Except DataError ColumnArray :=
  match typeFault? type with
  | some fault => .error (conversionError column (0, fault))
  | none =>
    match readCells type 0 [] cells with
    | .ok values => .ok ⟨builtType type, values⟩
    | .error fault => .error (conversionError column fault)

/-- The arithmetic of the text does not fit 64 bits. -/
def passes64 (type : SqlType) (text : String) : Bool :=
  match type with
  | .date => Calendar.datePasses64 (Text.trim text.toList)
  | .timestamp => Calendar.timestampPasses64 (Text.trim text.toList)
  | _ => false

/-- The largest offset, of 32 bits, into the bytes of an array. -/
def lastOffset : Nat := 2147483647

/-- Among the cells, up to the first that cannot be read, one has no result, where `room` is how
many bytes the array can still take. -/
def cellsOverrun (type : SqlType) (room : Nat) : List (Option String) → Bool
  | [] => false
  | none :: cells => cellsOverrun type room cells
  | some text :: cells =>
    passes64 type text ||
      match readCell type text with
      | .ok value => decide (room < value.size) || cellsOverrun type (room - value.size) cells
      | .error _ => false

def arrayOverruns (type : SqlType) (cells : List (Option String)) : Bool :=
  (typeFault? type).isNone && cellsOverrun type lastOffset cells

def buildArray? (type : SqlType) (cells : List (Option String)) (column : String) :
    Option (Except DataError ColumnArray) :=
  if arrayOverruns type cells then none else some (buildArray type cells column)

end RemoteQuery.Columnar
