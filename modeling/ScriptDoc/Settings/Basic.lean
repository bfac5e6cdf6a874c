import ScriptDoc.Schema.Checked
import ScriptDoc.Source.Unit

/-!
# Settings

The settings come in five sections, each with defaults.  They have an interchange form with all
fields (`wire`), and a check that fills in what is missing.
-/

namespace ScriptDoc

/-- How doc blocks are read. -/
structure ParserSettings where
  marker : String := defaultMarker
  strict : Bool := false
  deriving DecidableEq, Repr

/-- How source files are found. -/
structure DiscoverySettings where
  extensions : List String := [".scar"]
  exclude : List String := []
  respectIgnoreFile : Bool := true
  deriving DecidableEq, Repr

/-- How dumps are imported. -/
structure DumpSettings where
  dedupeFirstMember : Bool := false
  deriving DecidableEq, Repr

/-- How documents are merged. -/
structure MergeSettings where
  cumulative : Bool := false
  deriving DecidableEq, Repr

/-- How documents are written. -/
structure OutputSettings where
  path : String := "scardoc.json"
  indent : Nat := 2
  format : String := "auto"
  deriving DecidableEq, Repr

/-- All settings. -/
structure Settings where
  parser : ParserSettings := {}
  discovery : DiscoverySettings := {}
  dump : DumpSettings := {}
  merge : MergeSettings := {}
  output : OutputSettings := {}
  deriving DecidableEq, Repr

namespace ParserSettings

/-- The object of the section. -/
def wire (s : ParserSettings) : Value :=
  .object [("marker", .text s.marker), ("strict", .bool s.strict)]

/-- Checks the object of the section. -/
def check : Check ParserSettings := Check.record "ParserConfig" fun e =>
  ParserSettings.mk
    <$> optional ["marker"] defaultMarker Check.someText e
    <*> optional ["strict"] false Check.flag e

end ParserSettings

namespace DiscoverySettings

/-- The object of the section. -/
def wire (s : DiscoverySettings) : Value :=
  .object [("extensions", .list (s.extensions.map .text)), ("exclude", .list (s.exclude.map .text)),
    ("respect_gitignore", .bool s.respectIgnoreFile)]

/-- Checks the object of the section. -/
def check : Check DiscoverySettings := Check.record "DiscoveryConfig" fun e =>
  DiscoverySettings.mk
    <$> optional ["extensions"] [".scar"] (Check.list Check.text) e
    <*> optional ["exclude"] [] (Check.list Check.text) e
    <*> optional ["respect_gitignore"] true Check.flag e

end DiscoverySettings

namespace DumpSettings

/-- The object of the section. -/
def wire (s : DumpSettings) : Value :=
  .object [("dedupe_first_enum_value", .bool s.dedupeFirstMember)]

/-- Checks the object of the section. -/
def check : Check DumpSettings := Check.record "DumpConfig" fun e =>
  DumpSettings.mk <$> optional ["dedupe_first_enum_value"] false Check.flag e

end DumpSettings

namespace MergeSettings

/-- The object of the section. -/
def wire (s : MergeSettings) : Value := .object [("cumulative", .bool s.cumulative)]

/-- Checks the object of the section. -/
def check : Check MergeSettings := Check.record "MergeConfig" fun e =>
  MergeSettings.mk <$> optional ["cumulative"] false Check.flag e

end MergeSettings

namespace OutputSettings

/-- The object of the section. -/
def wire (s : OutputSettings) : Value :=
  .object [("path", .text s.path), ("indent", .int s.indent), ("format", .text s.format)]

/-- Checks the object of the section. -/
def check : Check OutputSettings := Check.record "OutputConfig" fun e =>
  OutputSettings.mk
    <$> optional ["path"] "scardoc.json" Check.text e
    <*> optional ["indent"] 2 Check.natural e
    <*> optional ["format"] "auto" Check.text e

end OutputSettings

namespace Settings

/-- The name that reports give to the shape of settings. -/
def modelName : String := "ScardocConfig"

/-- The object of all settings. -/
def wire (s : Settings) : Value :=
  .object [("parser", s.parser.wire), ("discovery", s.discovery.wire), ("dump", s.dump.wire),
    ("merge", s.merge.wire), ("output", s.output.wire)]

/-- Checks the object of all settings. -/
def check : Check Settings := Check.record modelName fun e =>
  Settings.mk
    <$> optional ["parser"] {} ParserSettings.check e
    <*> optional ["discovery"] {} DiscoverySettings.check e
    <*> optional ["dump"] {} DumpSettings.check e
    <*> optional ["merge"] {} MergeSettings.check e
    <*> optional ["output"] {} OutputSettings.check e

end Settings

end ScriptDoc
