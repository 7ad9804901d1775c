/-!
# Names and data types

What tables, functions and sequences are called, and how the types of values are written.
-/

namespace SqlTree

/-- A name, with a schema if it is qualified. -/
structure ObjectName where
  name : String
  schema : Option String
deriving DecidableEq, Repr

namespace ObjectName

/-- A name without a schema. -/
def plain (name : String) : ObjectName := ⟨name, none⟩

/-- A name as it is shown: the schema and a point stand before a qualified name. -/
def text (object : ObjectName) : String :=
  match object.schema with
  | some schema => schema ++ "." ++ object.name
  | none => object.name

end ObjectName

/-- A data type. Types are an open set, so a type is kept by its name, in which several words are
brought to one spelling; the modifiers are its length, precision or scale. -/
structure DataType where
  name : String
  modifiers : List Int64
deriving DecidableEq, Repr

/-- A data type as it is written in SQL. -/
def DataType.text (dataType : DataType) : String :=
  if dataType.modifiers.isEmpty then dataType.name
  else
    dataType.name ++ "("
      ++ ", ".intercalate (dataType.modifiers.map fun modifier => Int.repr modifier.toInt) ++ ")"

end SqlTree
