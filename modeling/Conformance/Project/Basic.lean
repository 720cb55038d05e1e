import Conformance.Glob.Expression
import Conformance.Path.Project
import Conformance.Project.ConfigFile
import Conformance.Rule.Catalog
/-!
# Projects

A `Project` is a project file with everything settled: paths are read from the
directory of the file, globs are ready to match, the rules are those of the
catalog that were not disabled, and what was absent has its default.  A project
can also be made of root files alone, without a project file.

Settling asks nothing of the disk.  It fails on a glob that cannot be read and on
a disabled rule that does not exist; in that order, and on the first one.
-/
namespace Conformance

inductive GlobField where
  | included
  | excluded
  deriving DecidableEq, Repr

def GlobField.name : GlobField → String
  | .included => "include"
  | .excluded => "exclude"

inductive ConfigFault where
  | glob (field : GlobField) (pattern : ProjectPath) (error : GlobError)
  | globs (field : GlobField) (error : GlobError)
  | unknownRule (name : String)
  deriving DecidableEq, Repr

def ConfigFault.message : ConfigFault → String
  | .glob field pattern e =>
    "invalid " ++ field.name ++ " glob: " ++ pattern.text ++ ": " ++ e.message
  | .globs field e => "failed to compile " ++ field.name ++ " globs: " ++ e.message
  | .unknownRule name => "unknown rule in disabledRules: " ++ name

structure Project where
  /-- The project file. None when the project is made of root files alone. -/
  configPath : Option Path
  /-- The directory that the project's paths start from. -/
  dir : Path
  /-- The root files, when they are named. Globs are not asked then. -/
  files : Option (List Path)
  included : List Glob
  excluded : List Glob
  noEmit : Bool
  noEmitOnError : Bool
  outDir : Path
  /-- The directory that is left out of the names of outputs. -/
  rootDir : Option ProjectPath
  buildInfoPath : Path
  exemptionConfig : Option Path
  rules : List Rule
  /-- The projects that this one needs: directories or project files. -/
  references : List Path
  deriving Repr, Inhabited

namespace Project

def defaultInclude : String := "**/*.tree.json"

def installedFiles : String := "node_modules/**"

def buildInfoName : Path := .ofString "tsconfig.tsbuildinfo"

/-- The globs that pass over files when a project names none: what was installed, and what was
written before. -/
def defaultExcludes (outDir : Option String) : List String :=
  installedFiles :: match outDir with
    | none => []
    | some dir =>
      [String.ofList (ProjectPath.dropSlashesEnd (ProjectPath.ofString dir).chars) ++ "/**"]

def readEach (field : GlobField) : List String → Except ConfigFault (List Glob)
  | [] => .ok []
  | pattern :: patterns =>
    let pattern := ProjectPath.ofString pattern
    match Glob.parse pattern.text with
    | .error e => .error (.glob field pattern e)
    | .ok g => match readEach field patterns with
      | .error e => .error e
      | .ok gs => .ok (g :: gs)

def readGlobs (field : GlobField) (patterns : List String) : Except ConfigFault (List Glob) :=
  match readEach field patterns with
  | .error e => .error e
  | .ok gs => match Glob.refusal? gs with
    | some e => .error (.globs field e)
    | none => .ok gs

def enabledRules (disabled : List String) : Except ConfigFault (List Rule) :=
  match disabled.find? fun name => (Rule.find? name).isNone with
  | some name => .error (.unknownRule name)
  | none => .ok (Rule.all.filter fun r => !disabled.contains r.name)

def dirOf (configPath : Path) : Path := configPath.parent.getD (.ofString ".")

def pathIn (dir : Path) (text : String) : Path := dir.join (.ofString text)

/-- The project that a project file describes, read as the file at `configPath`. -/
def ofConfig (c : ConfigFile) (configPath : Path) : Except ConfigFault Project :=
  let dir := dirOf configPath
  let outDir := (c.options.outDir.map (pathIn dir)).getD dir
  match readGlobs .included (c.included.getD [defaultInclude]) with
  | .error e => .error e
  | .ok included =>
    match readGlobs .excluded (c.excluded.getD (defaultExcludes c.options.outDir)) with
    | .error e => .error e
    | .ok excluded =>
      match enabledRules ((c.plugin?.map (·.disabledRules)).getD []) with
      | .error e => .error e
      | .ok rules => .ok
        { configPath := some configPath
          dir := dir
          files := c.files.map (·.map (pathIn dir))
          included := included
          excluded := excluded
          noEmit := c.options.noEmit.getD false
          noEmitOnError := c.options.noEmitOnError.getD false
          outDir := outDir
          rootDir := c.options.rootDir.map .ofString
          buildInfoPath :=
            (c.options.buildInfoFile.map (pathIn dir)).getD (outDir.join buildInfoName)
          exemptionConfig := (c.plugin?.bind (·.exemptionConfig)).map (pathIn dir)
          rules := rules
          references := c.references.map (pathIn dir) }

/-- The project made of root files alone, named from the directory `dir`. -/
def ofRoots (dir : Path) (files : List Path) : Project where
  configPath := none
  dir := dir
  files := some (files.map dir.join)
  included := []
  excluded := []
  noEmit := false
  noEmitOnError := false
  outDir := dir
  rootDir := none
  buildInfoPath := dir.join buildInfoName
  exemptionConfig := none
  rules := Rule.all
  references := []

/-! ## Names of outputs -/

/-- The ends of source names, and what they become in the names of outputs. The first that fits
counts. -/
def outputEndings : List (String × String) :=
  [(".tsx", ".js"), (".mts", ".mjs"), (".cts", ".cjs"), (".ts", ".js")]

def outputName (name : List Char) : List Char :=
  match outputEndings.find? fun e => e.1.toList.isSuffixOf name with
  | none => name
  | some (source, output) => name.take (name.length - source.length) ++ output.toList

/-- What is left of a name behind the directory that is left out. A name elsewhere stays. -/
def withoutRootDir (rootDir : Option ProjectPath) (name : ProjectPath) : List Char :=
  match rootDir with
  | none => name.chars
  | some root =>
    if name.isUnder root.chars then
      match ProjectPath.behind? (ProjectPath.dropSlashesEnd root.chars) name.chars with
      | none => name.chars
      | some rest => rest.dropWhile (· == '/')
    else name.chars

/-- Where the output of a file goes. Declaration files have none. -/
def outputPath (p : Project) (f : SourceFile) : Option Path :=
  if f.isDeclaration then none
  else some (p.outDir.join ⟨outputName (withoutRootDir p.rootDir f.path)⟩)

end Project

end Conformance
