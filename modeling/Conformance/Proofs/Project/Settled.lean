import Conformance.Project.Basic
/-!
# What settling a project file says

A project file is settled unless a glob or the name of a rule in it is refused.  What the settled
project has is said once, field by field, by `Settles`.
-/
namespace Conformance.Project

/-- What a project has of the project file that it was made of. -/
structure Settles (c : ConfigFile) (key : Path) (p : Project) : Prop where
  configPath : p.configPath = some key
  dir : p.dir = dirOf key
  files : p.files = c.files.map (·.map (pathIn p.dir))
  included : readGlobs .included (c.included.getD [defaultInclude]) = .ok p.included
  excluded : readGlobs .excluded (c.excluded.getD (defaultExcludes c.options.outDir)) =
    .ok p.excluded
  outDir : p.outDir = (c.options.outDir.map (pathIn p.dir)).getD p.dir
  buildInfoPath : p.buildInfoPath =
    (c.options.buildInfoFile.map (pathIn p.dir)).getD (p.outDir.join buildInfoName)
  rules : enabledRules ((c.plugin?.map (·.disabledRules)).getD []) = .ok p.rules
  references : p.references = c.references.map (pathIn p.dir)

variable {c : ConfigFile} {key : Path} {p : Project}

theorem settles_of_ofConfig (h : ofConfig c key = .ok p) : Settles c key p := by
  simp only [ofConfig] at h
  split at h
  · cases h
  · rename_i included hincluded
    split at h
    · cases h
    · rename_i excluded hexcluded
      split at h
      · cases h
      · rename_i rules hrules
        cases h
        exact ⟨rfl, rfl, rfl, hincluded, hexcluded, rfl, rfl, hrules, rfl⟩

theorem exists_settled {included excluded : List Glob} {rules : List Rule}
    (hincluded : readGlobs .included (c.included.getD [defaultInclude]) = .ok included)
    (hexcluded : readGlobs .excluded (c.excluded.getD (defaultExcludes c.options.outDir)) =
      .ok excluded)
    (hrules : enabledRules ((c.plugin?.map (·.disabledRules)).getD []) = .ok rules) :
    ∃ p, ofConfig c key = .ok p := by
  simp only [ofConfig, hincluded, hexcluded, hrules]
  exact ⟨_, rfl⟩

end Conformance.Project
