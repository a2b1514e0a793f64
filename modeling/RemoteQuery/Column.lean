import RemoteQuery.Message.Results

/-!
# Columns of a result

A column is described by its name, the text of its declared type, and what the service says of its
size and of NULL. Only an explicit statement forbids NULL.
-/
namespace RemoteQuery

inductive Nullability
  | notNull
  | nullable
  | unknown
  deriving DecidableEq, Repr

namespace Nullability

def ofWire : Option String → Nullability
  | some "NOT_NULL" => notNull
  | some "NULLABLE" => nullable
  | _ => unknown

def word : Nullability → String
  | notNull => "NotNull"
  | nullable => "Nullable"
  | unknown => "Unknown"

def allowsNull : Nullability → Bool
  | notNull => false
  | nullable | unknown => true

end Nullability

structure Column where
  name : String
  declaredType : String
  precision : Int := 0
  scale : Int := 0
  nullable : Nullability := .unknown
  deriving DecidableEq, Repr

def Column.ofInfo (info : Message.ColumnInfo) : Column :=
  { name := info.name
    declaredType := info.typeName
    precision := info.precision
    scale := info.scale
    nullable := .ofWire info.nullable }

end RemoteQuery
