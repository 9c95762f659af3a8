import RecordStore.Model.DefinitionDocument
import RecordStore.StoredValue

/-!
# Errors

What can go wrong, by cause. The wording is in `Error.message` and in the messages of the faults that
an error carries.
-/

namespace RecordStore

/-- Why a sequence of query tokens has no meaning. -/
inductive SequenceFault where
  | emptyGroup
  | leadingLink
  | trailingLink
  | adjacentLinks
  | emptyKey
  | emptySortKey
  deriving DecidableEq, Repr

/-- The message of a fault. -/
def SequenceFault.message : SequenceFault → String
  | emptyGroup => "nested query group cannot be empty"
  | leadingLink => "query sequence cannot start with AND/OR"
  | trailingLink => "query sequence cannot end with AND/OR"
  | adjacentLinks => "AND/OR must be followed by a query, not another link"
  | emptyKey => "query key cannot be empty"
  | emptySortKey => "sort key cannot be empty"

/-- Why a search cannot be run. -/
inductive SearchFault where
  /-- The document does not have the structure of a search. -/
  | document (fault : DocumentFault)
  /-- The tokens of the search are out of order. -/
  | sequence (fault : SequenceFault)
  deriving DecidableEq, Repr

/-- The message of a fault. -/
def SearchFault.message : SearchFault → String
  | document fault => fault.message
  | sequence fault => fault.message

/-- What a stored value was to be read as. -/
inductive DecodeTarget where
  | integer
  | number
  | date
  | json
  | rowCount
  deriving DecidableEq, Repr

namespace DecodeTarget

/-- The name of the target. -/
def name : DecodeTarget → String
  | integer => "Integer"
  | number => "Number"
  | date => "Date"
  | json => "Json"
  | rowCount => "count"

/-- Why a value is not of the target; for JSON text the target's name says it all. -/
def reason : DecodeTarget → Option String
  | integer => some "not an integer"
  | number => some "not a finite number"
  | date => some "not a valid date"
  | json => none
  | rowCount => some "not a row count"

end DecodeTarget

/-- The name of the variable that sets the concurrency of encoding. -/
def concurrencyVariable : String := "DATASTORE_BULK_ENCODE_CONCURRENCY"

/-- Why a configuration is refused. -/
inductive ConfigurationFault where
  | notPositive (text : String)
  | zeroConcurrency
  deriving DecidableEq, Repr

/-- The message of a fault. -/
def ConfigurationFault.message : ConfigurationFault → String
  | notPositive text => concurrencyVariable ++ " must be a positive integer, got '" ++ text ++ "'"
  | zeroConcurrency => "bulk encode concurrency must be at least 1"

/-- A failure of an operation. -/
inductive Error where
  /-- The search cannot be run. -/
  | malformedQuery (fault : SearchFault)
  /-- A batch holds instances of more than one model. -/
  | heterogeneousBatch (models : List String)
  /-- A stored value has no kind that tells its type. -/
  | typeResolution (value : StoredValue)
  /-- A stored value is not of the type of its property. -/
  | decode (target : DecodeTarget) (value : StoredValue)
  /-- A model is not consistent, or a value is no instance of it. -/
  | invalidDefinition (fault : DefinitionFault)
  /-- An instance has no value for its primary key. -/
  | missingPrimaryKey (name : String)
  /-- A row that was just written is not there. -/
  | notFound (table : String) (key : Json)
  /-- The configuration is refused. -/
  | configuration (fault : ConfigurationFault)
  /-- The store reports a failure of its own. -/
  | database (message : String)
  /-- A document gives no definition. -/
  | serialization (fault : DefinitionDocumentFault)
  deriving Repr

namespace Error

/-- The message of an error. -/
def message : Error → String
  | malformedQuery fault => "Malformed query: " ++ fault.message
  | heterogeneousBatch models =>
    "Cannot bulk insert more than one model type: " ++ ", ".intercalate models
  | typeResolution value =>
    "Cannot determine type of " ++ value.describe ++ "! Type: " ++ value.kind
  | decode target value =>
    "Cannot decode " ++ value.describe ++ " as " ++ target.name
      ++ (match target.reason with | some reason => ": " ++ reason | none => "")
  | invalidDefinition fault => "Invalid model definition: " ++ fault.message
  | missingPrimaryKey name => "Primary key '" ++ name ++ "' is missing or null"
  | notFound table key =>
    "Record not found in table '" ++ table ++ "' for key " ++ key.toText
  | configuration fault => "Configuration error: " ++ fault.message
  | database message => message
  | serialization fault => "Serialization error: " ++ fault.message

end Error

end RecordStore
