import RemoteQuery.Column
import RemoteQuery.SqlType

/-!
# Schemas

The schema of a result gives each column a field of the columnar format. The declared type of the
column goes with the field as metadata, since several declared types are stored alike.
-/
namespace RemoteQuery

def Column.sqlType (column : Column) : SqlType :=
  .ofDeclared column.declaredType column.precision column.scale

structure Field where
  name : String
  type : ArrowType
  nullable : Bool
  metadata : List (String × String) := []
  deriving DecidableEq, Repr

/-- The metadata key of the declared type. -/
def declaredTypeKey : String := "athena:type"

def SqlType.metadata (type : SqlType) : List (String × String) := [(declaredTypeKey, type.display)]

def Field.ofColumn (column : Column) : Field :=
  { name := column.name
    type := column.sqlType.arrow
    nullable := column.nullable.allowsNull
    metadata := column.sqlType.metadata }

structure Schema where
  fields : List Field
  metadata : List (String × String) := []
  deriving DecidableEq, Repr

def Schema.ofColumns (columns : List Column) : Schema := { fields := columns.map Field.ofColumn }

end RemoteQuery
