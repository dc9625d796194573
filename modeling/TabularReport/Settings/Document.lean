import TabularReport.Document.Scalars
import TabularReport.Settings.Basic

/-!
# Settings as documents
-/

namespace TabularReport

/-- Read the limits on runs. -/
def EngineSettings.reader : Reader EngineSettings :=
  Reader.record "EngineSettings" <|
    EngineSettings.mk <$> .defaulted "max_page_size" Reader.count largestPage
      <*> .defaulted "default_page_size" Reader.count 50
      <*> .defaulted "record_history" Reader.bool true

/-- Write the limits on runs. -/
def EngineSettings.toJson (s : EngineSettings) : Json :=
  .object
    [("max_page_size", .ofNat s.maxPageSize), ("default_page_size", .ofNat s.defaultPageSize),
      ("record_history", .bool s.recordHistory)]

/-- Read the rules for raw queries. -/
def RawQuerySettings.reader : Reader RawQuerySettings :=
  Reader.record "RawQuerySettings" <|
    RawQuerySettings.mk <$> .defaulted "enabled" Reader.bool true
      <*> .defaulted "admin_only" Reader.bool true

/-- Write the rules for raw queries. -/
def RawQuerySettings.toJson (s : RawQuerySettings) : Json :=
  .object [("enabled", .bool s.enabled), ("admin_only", .bool s.adminOnly)]

/-- Read the only field of a section. -/
def sectionReader {α : Type} (type field : String) (r : Reader α) (default : α) : Reader α :=
  Reader.record type (.defaulted field r default)

/-- Read all settings. -/
def Settings.reader : Reader Settings :=
  let plain : Settings := {}
  Reader.record "Settings" <|
    Settings.mk <$>
        .defaulted "database" (sectionReader "DatabaseSettings" "path" Reader.string plain.databasePath)
          plain.databasePath
      <*> .defaulted "engine" EngineSettings.reader {}
      <*> .defaulted "raw_query" RawQuerySettings.reader {}
      <*> .defaulted "auth" (sectionReader "AuthSettings" "admins" (Reader.list Reader.string) []) []
      <*> .defaulted "logging" (sectionReader "LoggingSettings" "filter" Reader.string plain.logFilter)
        plain.logFilter

/-- Write all settings. -/
def Settings.toJson (s : Settings) : Json :=
  .object
    [("database", .object [("path", .string s.databasePath)]), ("engine", s.engine.toJson),
      ("raw_query", s.rawQuery.toJson), ("auth", .object [("admins", .ofStrings s.admins)]),
      ("logging", .object [("filter", .string s.logFilter)])]

end TabularReport
