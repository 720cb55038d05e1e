import Conformance.Diagnostic
import Conformance.Json.Schema
import Conformance.Json.Printer
/-!
# Project files

A project is described by a JSON document that compilers and other tools read as
well.  This module holds the part of it that matters here, as written: every
field may be absent, and everything else in the document is passed over.

What the fields mean together is settled in `Project`; a `ConfigFile` is only the
document, read by its schema and written back from it.
-/
namespace Conformance

/-- An entry of the list of plug-ins. Those of other tools are kept and ignored. -/
structure PluginEntry where
  name : String
  /-- The exemption file. -/
  exemptionConfig : Option String := none
  /-- Rules to leave out. -/
  disabledRules : List String := []
  deriving DecidableEq, Repr, Inhabited

structure CompilerOptions where
  noEmit : Option Bool := none
  noEmitOnError : Option Bool := none
  outDir : Option String := none
  rootDir : Option String := none
  buildInfoFile : Option String := none
  plugins : List PluginEntry := []
  deriving DecidableEq, Repr, Inhabited

structure ConfigFile where
  options : CompilerOptions := {}
  /-- The root files by name. -/
  files : Option (List String) := none
  /-- Globs of the files to take. -/
  included : Option (List String) := none
  /-- Globs of the files to pass over. -/
  excluded : Option (List String) := none
  /-- The projects that this one needs. -/
  references : List String := []
  deriving DecidableEq, Repr, Inhabited

/-! ## The schema -/

inductive ConfigRecord where
  | plugin
  | options
  | reference
  | file
  deriving DecidableEq, Repr

open Json (Shape Layout Datum)

def optionalField (key : String) (shape : Shape ConfigRecord) : Json.Field ConfigRecord :=
  { key := key, shape := shape, nullable := true, absent := some .null, sparse := true }

def optionalList (key : String) (item : Shape ConfigRecord) : Json.Field ConfigRecord :=
  { key := key, shape := .list item, absent := some (.list []), sparse := true }

def configSchema : ConfigRecord → Layout ConfigRecord
  | .plugin =>
    { name := "PluginConfig"
      fields := [
        { key := "name", shape := .text },
        optionalField "exemptionConfig" .text,
        optionalList "disabledRules" .text] }
  | .options =>
    { name := "CompilerOptionsConfig"
      fields := [
        optionalField "noEmit" .flag,
        optionalField "noEmitOnError" .flag,
        optionalField "outDir" .text,
        optionalField "rootDir" .text,
        optionalField "tsBuildInfoFile" .text,
        optionalList "plugins" (.record .plugin)] }
  | .reference =>
    { name := "ProjectReference"
      fields := [{ key := "path", shape := .text }] }
  | .file =>
    { name := "TsConfig"
      fields := [
        { key := "compilerOptions", shape := .record .options,
          absent := some (.record [.null, .null, .null, .null, .null, .list []]) },
        optionalField "files" (.list .text),
        optionalField "include" (.list .text),
        optionalField "exclude" (.list .text),
        optionalList "references" (.record .reference)] }

/-! ## Data and project files -/

open Json.Datum (asText asFlag asOption asList)

def PluginEntry.ofDatum : Datum → PluginEntry
  | .record [name, exemptionConfig, disabledRules] =>
    ⟨name.asText, exemptionConfig.asOption asText, disabledRules.asList asText⟩
  | _ => default

def PluginEntry.toDatum (p : PluginEntry) : Datum :=
  .record [.text p.name, .ofOption .text p.exemptionConfig, .list (p.disabledRules.map .text)]

def CompilerOptions.ofDatum : Datum → CompilerOptions
  | .record [noEmit, noEmitOnError, outDir, rootDir, buildInfoFile, plugins] =>
    ⟨noEmit.asOption asFlag, noEmitOnError.asOption asFlag, outDir.asOption asText,
      rootDir.asOption asText, buildInfoFile.asOption asText, plugins.asList PluginEntry.ofDatum⟩
  | _ => default

def CompilerOptions.toDatum (o : CompilerOptions) : Datum :=
  .record [.ofOption .flag o.noEmit, .ofOption .flag o.noEmitOnError, .ofOption .text o.outDir,
    .ofOption .text o.rootDir, .ofOption .text o.buildInfoFile,
    .list (o.plugins.map PluginEntry.toDatum)]

def referenceOfDatum : Datum → String
  | .record [path] => path.asText
  | _ => ""

def textList (texts : List String) : Datum := .list (texts.map .text)

namespace ConfigFile

def ofDatum : Datum → ConfigFile
  | .record [options, files, included, excluded, references] =>
    ⟨.ofDatum options, files.asOption (asList asText), included.asOption (asList asText),
      excluded.asOption (asList asText), references.asList referenceOfDatum⟩
  | _ => default

def toDatum (c : ConfigFile) : Datum :=
  .record [c.options.toDatum, .ofOption textList c.files, .ofOption textList c.included,
    .ofOption textList c.excluded, .list (c.references.map fun path => .record [.text path])]

def parse (text : String) : Except Json.Failure ConfigFile :=
  (Json.readRecord configSchema .file text.toList).map ofDatum

def toJson (c : ConfigFile) : Json := Json.write configSchema (.record .file) c.toDatum

def render (c : ConfigFile) : String := String.ofList (Json.compact c.toJson)

/-- The entry for this tool, the first one if there are several. -/
def plugin? (c : ConfigFile) : Option PluginEntry :=
  c.options.plugins.find? (·.name == toolName)

end ConfigFile

end Conformance
