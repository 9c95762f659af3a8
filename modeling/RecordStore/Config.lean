import RecordStore.Codec.Registry
import RecordStore.Text.Blank
import RecordStore.Text.Kebab

/-!
# Configuration

How a datastore names its tables, which codecs it uses, and how many records of a batch it encodes at
a time.
-/

namespace RecordStore

/-- The options of a datastore. -/
structure Config where
  codecs : CodecRegistry := .default
  /-- The table of a model; by default its name in kebab case. -/
  tableName : ModelDefinition → String := fun definition => Text.kebabCase definition.name
  /-- How many records of a batch are encoded at a time. -/
  concurrency : UInt64 := 1

namespace Config

/-- Refuses a configuration that encodes nothing. -/
def check (config : Config) : Except Error Unit :=
  if config.concurrency = 0 then .error (.configuration .zeroConcurrency) else .ok ()

/-- The configuration by the value of `concurrencyVariable`, if it is set. Blanks around the number
do not count. -/
def ofVariable (value : Option String) : Except Error Config := do
  let config : Config ← match value with
    | none => pure {}
    | some text =>
      match Text.word? (Text.trim text.toList) with
      | some concurrency => pure { concurrency }
      | none => throw (.configuration (.notPositive text))
  config.check
  return config

/-- The name of the table of each model put between two texts, the name of the model unchanged. -/
def withTableNames (config : Config) (before after : String) : Config :=
  { config with tableName := fun definition => before ++ definition.name ++ after }

/-- The configuration in words. -/
def describe (config : Config) : String :=
  "DatastoreConfig \x7b codecs: " ++ config.codecs.describe ++ ", bulk_encode_concurrency: "
    ++ String.ofList (Text.digits config.concurrency.toNat) ++ ", .. \x7d"

end Config

end RecordStore
