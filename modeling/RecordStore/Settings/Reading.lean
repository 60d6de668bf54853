import RecordStore.Reading
import RecordStore.Settings.Basic
/-!
# Reading settings

Settings are read from an object by name or from an array by position. Only the address has to
be there; the optional settings may also be null.

## Main definitions

* `Settings.read`: settings from a tree.
-/

namespace RecordStore

variable {τ : Type} [Tree τ]

namespace Settings

/-- The settings with their names and defaults. -/
def fields : Fields τ Settings :=
  Settings.mk <$> Fields.required "uri" Reader.text
    <*> Fields.optional "database" "test" Reader.text
    <*> Fields.optional "max_pool_size" none (Reader.nullable Reader.uint32)
    <*> Fields.optional "min_pool_size" none (Reader.nullable Reader.uint32)
    <*> Fields.optional "max_idle_time_secs" none (Reader.nullable Reader.uint64)
    <*> Fields.optional "app_name" none (Reader.nullable Reader.text)

/-- Settings from a tree. -/
def read : Reader τ Settings :=
  Reader.struct "MongoConfig" fields

end Settings

end RecordStore
