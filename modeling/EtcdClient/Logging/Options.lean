import EtcdClient.Config.Document

/-
# Logging options

Where a program logs to and how much. The level is a filter in words, the directory is that of a
file written beside the console. As a document the options are an object with some of the fields
or a list of the first of them.

Source: `SPEC_FULL.md` §10.2 on logging, `LoggingOptions`.
-/

namespace EtcdClient

/-- Where a program logs to and how much. -/
structure LoggingOptions where
  level : String := "info"
  directory : Option String := none
  fileStem : String := "etcdlink"
  ansi : Bool := true
  deriving DecidableEq

namespace LoggingOptions

/-- The names of the fields in order. -/
def fieldNames : List String := ["level", "dir", "file_prefix", "ansi"]

/-- The options that a document is. -/
def ofDocument? (d : Document) : Option LoggingOptions :=
  match d.fields? fieldNames with
  | some [level, directory, fileStem, ansi] => do
    let defaults : LoggingOptions := {}
    return {
      level := ← Document.field? Document.text? defaults.level level
      directory :=
        ← Document.field? (Document.optional? Document.text?) defaults.directory directory
      fileStem := ← Document.field? Document.text? defaults.fileStem fileStem
      ansi := ← Document.field? Document.bool? defaults.ansi ansi }
  | _ => none

/-- The options that a text writes. -/
def ofText? (s : String) : Option LoggingOptions := (Document.ofText? s).bind ofDocument?

end LoggingOptions
end EtcdClient
