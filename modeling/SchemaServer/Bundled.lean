/-! # The bundled reference file

The text that built-in definitions open when no other file is given. -/

namespace SchemaServer

/-- A reference of the standard library. -/
def bundledText : String :=
"/// The Teo standard library.
///
/// This file is a read-only reference for go-to-definition on built-in
/// names. The analyzer ships its own copy of the library.
namespace std \x7b

  /// Sort order used by `orderBy` and indexes
  enum Sort \x7b
    asc
    desc
  \x7d

  /// Database backends a connector can target
  enum Database \x7b
    mongo
    mysql
    postgres
    sqlite
  \x7d

  /// Specify the table name for a model
  declare unique model decorator map(tableName?: String?)

  /// Mark a field as the model's primary key
  declare unique field decorator id(sort: Sort?, length: Int?)

  /// Generate a value for this field when a record is created
  declare unique field decorator default(value: ThisFieldType | Pipeline<Null, ThisFieldType>)

  /// Require the field value to be unique
  declare unique field decorator unique(sort: Sort?, length: Int?)

  /// Add an index on this field
  declare unique field decorator index(sort: Sort?, length: Int?)

  /// Keep the field out of query output
  declare unique field decorator writeonly

  /// Reject writes to the field
  declare unique field decorator readonly

  /// Allow the field to be absent
  declare unique field decorator optional

  /// Update the field when a record is saved
  declare unique field decorator onSave(pipeline: Pipeline<ThisFieldType?, ThisFieldType>)

  /// Define a relation to another model
  declare unique relation decorator relation(fields: FieldIndexes<Self>?, references: FieldIndexes<ThisFieldType>?, onUpdate: Update?, onDelete: Delete?)

  /// Action on the related records when a referenced record is deleted
  enum Delete \x7b
    noAction
    nullify
    cascade
    deny
    default
  \x7d

  /// Action on the related records when a referenced key is updated
  enum Update \x7b
    noAction
    nullify
    update
    delete
    deny
    default
  \x7d

  /// The current time
  declare pipeline item now: Null -> DateTime

  /// A random UUID string
  declare pipeline item uuid: Null -> String

  /// A random cuid string
  declare pipeline item cuid: Null -> String

  /// Hash the input with bcrypt
  declare pipeline item bcryptSalt: String -> String
\x7d
"

end SchemaServer
