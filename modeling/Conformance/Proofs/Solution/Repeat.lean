import Conformance.Proofs.Project.Discovering
import Conformance.Proofs.Solution.Leaving
/-!
# Building again

A solution that was built well is at rest: a second build finds every project up to date, whatever
the hook is, and leaves the disk as it is.  Three things have to come out the same on the disk that
the first build left: the order of the solution, what each project is made of, and the record with
all that it names.

What a project is made of is read when its turn comes, and the build goes on after that.  So a file
that the build saves must not be an input of a project.  Nor must the build bring an input into
reach: a path that goes into a directory and out of it again leads nowhere until the directory is
made, and counts as empty at a turn before that and as the file that it leads to later.
-/
namespace Conformance

open Disk (Grows Saves Wrote)

/-! ## What a project is made of -/

namespace Project

def inputPaths (d : Disk) (p : Project) : List Path :=
  p.configPath.toList ++ p.exemptionConfig.toList ++ p.roots d

theorem bytesAt_of_wrote {paths : List Path} {d d' : Disk} (h : Wrote paths d d') {path : Path}
    (hapart : ∀ w ∈ paths, d'.meet path w = false)
    (hreach : d'.holds path = true → d.holds path = true) :
    bytesAt d' (some path) = bytesAt d (some path) := by
  unfold bytesAt Disk.read
  dsimp only
  cases hres : d.resolve path with
  | ok spot => rw [h.resolve hres hapart]
  | error e =>
    cases hres' : d'.resolve path with
    | error e' => rfl
    | ok spot =>
      have hholds := hreach (Disk.holds_iff.2 ⟨spot, hres'⟩)
      rw [Disk.holds_eq_false hres] at hholds
      cases hholds

theorem bytesAt_option_of_wrote {paths : List Path} {d d' : Disk} (h : Wrote paths d d')
    {path : Option Path} (hapart : ∀ input ∈ path.toList, ∀ w ∈ paths, d'.meet input w = false)
    (hreach : ∀ input ∈ path.toList, d'.holds input = true → d.holds input = true) :
    bytesAt d' path = bytesAt d path := by
  cases path with
  | none => rfl
  | some path =>
    exact bytesAt_of_wrote h (hapart path List.mem_cons_self) (hreach path List.mem_cons_self)

/-- **A project has the signature that it had** if its root files are the same and no input was
saved or has come into reach. -/
theorem signature_of_wrote {paths : List Path} {d d' : Disk} {p : Project}
    (h : Wrote paths d d') (hroots : p.roots d' = p.roots d)
    (hapart : ∀ input ∈ p.inputPaths d', ∀ w ∈ paths, d'.meet input w = false)
    (hreach : ∀ input ∈ p.inputPaths d, d'.holds input = true → d.holds input = true) :
    p.signature d' (p.roots d') = p.signature d (p.roots d) := by
  have hsame : p.inputPaths d' = p.inputPaths d := by rw [inputPaths, hroots, inputPaths]
  rw [hsame] at hapart
  have hconfig : bytesAt d' p.configPath = bytesAt d p.configPath := by
    refine bytesAt_option_of_wrote h (fun input hinput => hapart input ?_)
      fun input hinput => hreach input ?_ <;>
    exact List.mem_append_left _ (List.mem_append_left _ hinput)
  have hexemptions : bytesAt d' p.exemptionConfig = bytesAt d p.exemptionConfig := by
    refine bytesAt_option_of_wrote h (fun input hinput => hapart input ?_)
      fun input hinput => hreach input ?_ <;>
    exact List.mem_append_left _ (List.mem_append_right _ hinput)
  have hfiles : ∀ root ∈ p.roots d, bytesAt d' (some root) = bytesAt d (some root) := by
    intro root hroot
    have hinput : root ∈ p.inputPaths d := List.mem_append_right _ hroot
    exact bytesAt_of_wrote h (hapart root hinput) (hreach root hinput)
  have hlist : (p.roots d).map (fun root => (root, bytesAt d' (some root))) =
      (p.roots d).map fun root => (root, bytesAt d (some root)) :=
    List.map_congr_left fun root hroot => by rw [hfiles root hroot]
  rw [signature, signature, inputs, inputs, hroots, hconfig, hexemptions, hlist]

end Project

namespace Turn

variable {σ : Type}

/-- No file that the build saves is an input of a project. -/
def InputsApart (ts : List (Turn σ)) (after : Disk) : Prop :=
  ∀ t ∈ ts, ∀ input ∈ t.project.inputPaths after, ∀ t' ∈ ts, ∀ w ∈ t'.saved,
    after.meet input w = false

instance (ts : List (Turn σ)) (after : Disk) : Decidable (InputsApart ts after) :=
  inferInstanceAs (Decidable (∀ t ∈ ts, ∀ input ∈ t.project.inputPaths after, ∀ t' ∈ ts,
    ∀ w ∈ t'.saved, _))

/-- No input that is out of reach when the turn of its project comes is in reach after the
build. -/
def InputsReached (ts : List (Turn σ)) (after : Disk) : Prop :=
  ∀ t ∈ ts, ∀ input ∈ t.project.inputPaths t.disk,
    after.holds input = true → t.disk.holds input = true

instance (ts : List (Turn σ)) (after : Disk) : Decidable (InputsReached ts after) :=
  inferInstanceAs (Decidable (∀ t ∈ ts, ∀ input ∈ t.project.inputPaths t.disk, _))

end Turn

namespace Solution

variable {σ ε : Type} {hook : Hook σ ε} {d after : Disk} {gathered gathered' : σ} {root : Path}
  {ps : List Project} {outcomes : List ProjectOutcome}

/-! ## The disk after a turn -/

theorem saves_turns_after (h : buildAll hook [] d gathered ps = (.ok outcomes, after, gathered'))
    {t : Turn σ} (ht : t ∈ turns hook [] d gathered ps) :
    Saves ((turns hook [] d gathered ps).flatMap Turn.saved) t.disk after := by
  obtain ⟨before, rest, hsplit⟩ := List.append_of_mem ht
  refine (saves_from_turn h hsplit).saves ?_
  rw [hsplit, List.flatMap_append]
  exact List.subset_append_right _ _

theorem isAbsolute_of_saved (horder : IsOrder d root ps) (hroot : ∃ names, root.IsCanonical names)
    {t : Turn σ} (ht : t ∈ turns hook [] d gathered ps) {w : Path} (hw : w ∈ t.saved) :
    w.isAbsolute = true := by
  obtain ⟨-, hload, names, hnames⟩ := horder.key hroot (project_mem_of_turn ht)
  obtain ⟨hdir, -⟩ := Project.dir_of_canonical hload hnames
  obtain ⟨hrecord, houtput⟩ := Project.isAbsolute_saved hload hdir.isAbsolute
  rcases List.mem_append.1 hw with hw | hw
  · obtain ⟨⟨f, hf⟩, -⟩ := Turn.outputPath_of_mem hw
    exact houtput f w hf
  · split at hw
    · rw [List.mem_singleton.1 hw]
      exact hrecord
    · cases hw

theorem roots_after_turn (horder : IsOrder d root ps) (hroot : ∃ names, root.IsCanonical names)
    (h : buildAll hook [] d gathered ps = (.ok outcomes, after, gathered'))
    (hinputs : Turn.InputsApart (turns hook [] d gathered ps) after) {t : Turn σ}
    (ht : t ∈ turns hook [] d gathered ps) :
    t.project.roots after = t.project.roots t.disk := by
  obtain ⟨-, hload, names, hnames⟩ := horder.key hroot (project_mem_of_turn ht)
  obtain ⟨hdir, hplace⟩ := Project.dir_of_canonical hload hnames
  refine Project.roots_of_edits (saves_turns_after h ht) hdir (fun w hw => ?_)
    ((grows_to_turn ht).resolve_dir hplace) fun input hinput w hw => ?_
  · obtain ⟨t', ht', hw⟩ := List.mem_flatMap.1 hw
    exact isAbsolute_of_saved horder hroot ht' hw
  · obtain ⟨t', ht', hw⟩ := List.mem_flatMap.1 hw
    exact hinputs t ht input (List.mem_append_right _ hinput) t' ht' w hw

theorem signature_after_turn (horder : IsOrder d root ps)
    (hroot : ∃ names, root.IsCanonical names)
    (h : buildAll hook [] d gathered ps = (.ok outcomes, after, gathered'))
    (hinputs : Turn.InputsApart (turns hook [] d gathered ps) after)
    (hreached : Turn.InputsReached (turns hook [] d gathered ps) after) {t : Turn σ}
    (ht : t ∈ turns hook [] d gathered ps) :
    t.project.signature after (t.project.roots after) = t.signature := by
  refine Project.signature_of_wrote (saves_turns_after h ht).wrote
    (roots_after_turn horder hroot h hinputs ht) (fun input hinput w hw => ?_) (hreached t ht)
  obtain ⟨t', ht', hw⟩ := List.mem_flatMap.1 hw
  exact hinputs t ht input hinput t' ht' w hw

/-! ## At rest -/

theorem upToDate_of_upToDate (hps : (ps.map (·.configPath)).Nodup)
    (h : buildAll hook [] d gathered ps = (.ok outcomes, after, gathered'))
    (hrecords : Turn.RecordsApart (turns hook [] d gathered ps) after) {t : Turn σ}
    (ht : t ∈ turns hook [] d gathered ps) (hupToDate : t.isUpToDate = true) :
    t.project.isUpToDate after t.signature = true := by
  obtain ⟨before, rest, hsplit⟩ := List.append_of_mem ht
  -- the turn itself saves nothing, and no later one saves where its record is
  have hsaves := saves_from_turn h hsplit
  rw [List.flatMap_cons, Turn.saved_of_isUpToDate hupToDate, List.nil_append] at hsaves
  have hapart := meet_record_eq_false hps hsplit hrecords
  unfold Turn.isUpToDate Project.isUpToDate at hupToDate
  split at hupToDate
  · cases hupToDate
  · rename_i info hread
    obtain ⟨text, htext, hparse⟩ := BuildInfo.read_eq_some.1 hread
    have hread' : BuildInfo.read after t.project = some info :=
      BuildInfo.read_eq_some.2 ⟨text, hsaves.wrote.readText htext hapart, hparse⟩
    rw [Bool.and_eq_true, List.all_eq_true] at hupToDate
    rw [Project.isUpToDate, hread']
    dsimp only
    rw [hupToDate.1, Bool.true_and, List.all_eq_true]
    exact fun output houtput => hsaves.wrote.grows.holds (hupToDate.2 output houtput)

theorem upToDate_of_leaves (horder : IsOrder d root ps) (hroot : ∃ names, root.IsCanonical names)
    {t : Turn σ} (ht : t ∈ turns hook [] d gathered ps) (hgrows : Grows d after)
    (hleaves : t.Leaves after) (hplain : ∀ w ∈ t.outputs, '\\' ∉ w.chars) :
    t.project.isUpToDate after t.signature = true := by
  obtain ⟨-, hload, names, hnames⟩ := horder.key hroot (project_mem_of_turn ht)
  rw [Project.isUpToDate, hleaves.read]
  dsimp only [BuildInfo.of, BuildInfo.outputPaths]
  rw [beq_self_eq_true, Bool.true_and, List.all_eq_true]
  intro output houtput
  obtain ⟨name, hname, rfl⟩ := List.mem_map.1 houtput
  obtain ⟨w, hw, rfl⟩ := List.mem_map.1 hname
  obtain ⟨place, bytes, -, hres⟩ :=
    hleaves.resolve_outputName hload (Path.IsCanonical.isNormal hnames) hgrows hw (hplain w hw)
  exact Disk.holds_iff.2 ⟨_, hres⟩

/-- **After a good build every project is up to date.** -/
theorem upToDate_after_turn (horder : IsOrder d root ps)
    (hroot : ∃ names, root.IsCanonical names)
    (h : buildAll hook [] d gathered ps = (.ok outcomes, after, gathered'))
    (hgood : hasFailed outcomes = false)
    (hrecords : Turn.RecordsApart (turns hook [] d gathered ps) after)
    (hinputs : Turn.InputsApart (turns hook [] d gathered ps) after)
    (hplain : Turn.OutputsPlain (turns hook [] d gathered ps))
    (hreached : Turn.InputsReached (turns hook [] d gathered ps) after) {t : Turn σ}
    (ht : t ∈ turns hook [] d gathered ps) :
    t.project.isUpToDate after (t.project.signature after (t.project.roots after)) = true := by
  rw [signature_after_turn horder hroot h hinputs hreached ht]
  rcases passed_of_good h hgood t ht with hupToDate | ⟨hchecked, o, hresult⟩
  · exact upToDate_of_upToDate horder.once h hrecords ht hupToDate
  · exact upToDate_of_leaves horder hroot ht (saves_of_buildAll h).wrote.grows
      (leaves_of_isChecked horder.once h hrecords ht hchecked hresult) (hplain t ht)

theorem isBlocked_of_good {done : List ProjectOutcome} (h : hasFailed done = false) (d : Disk)
    (p : Project) : isBlocked d done p = false := by
  have hnone : badKeys done = [] := by
    unfold badKeys
    rw [List.filter_eq_nil_iff.2 fun o ho => List.any_eq_false.1 h o ho, List.map_nil]
  rw [isBlocked, hnone]
  simp

/-- **Where every project is up to date, a build does nothing.** -/
theorem buildAll_upToDate {τ ω : Type} (hook : Hook τ ω) (d : Disk) (state : τ) :
    ∀ (ps : List Project) {done : List ProjectOutcome}, hasFailed done = false →
      (∀ p ∈ ps, p.isUpToDate d (p.signature d (p.roots d)) = true) →
      buildAll hook done d state ps =
        (.ok (done ++ ps.map (·.outcome .upToDate [])), d, state)
  | [], done, _, _ => by simp [buildAll]
  | p :: ps, done, hdone, hps => by
    have hresult : Turn.result hook ⟨done, d, state, p⟩ =
        (.ok (p.outcome .upToDate []), d, state) :=
      Turn.Ends.result_eq (.upToDate (isBlocked_of_good hdone d p) (hps p List.mem_cons_self))
    have hdone' : hasFailed (done ++ [p.outcome .upToDate []]) = false := by
      unfold hasFailed at hdone ⊢
      rw [List.any_append, hdone]
      rfl
    rw [buildAll_cons, hresult]
    dsimp only
    rw [buildAll_upToDate hook d state ps hdone' fun q hq => hps q (List.mem_cons_of_mem p hq)]
    simp

theorem hasFailed_upToDate (ps : List Project) :
    hasFailed (ps.map (·.outcome .upToDate [])) = false := by
  unfold hasFailed
  rw [List.any_eq_false]
  intro o ho
  obtain ⟨p, -, rfl⟩ := List.mem_map.1 ho
  exact Bool.false_ne_true

/-- A solution is at rest on a disk: a build ends well with every project up to date and does
nothing else, whatever the hook would do if it were called. -/
structure AtRest (d : Disk) (root : Path) (ps : List Project) : Prop where
  order : projects d root = .ok ps
  good : hasFailed (ps.map (·.outcome .upToDate [])) = false
  idle : ∀ {τ ω : Type} (hook : Hook τ ω) (state : τ),
    build hook d state root = (.ok (ps.map (·.outcome .upToDate [])), d, state)

/-- **A solution that was built well is at rest**: the second build passes over every project, if
no file that the first one saved is an input of a project, the records are apart from one another
and from all outputs, no output has a backslash in its path, and no input has come into reach since
the turn of its project. -/
theorem build_again (hook : Hook σ ε) (found d after : Disk) (gathered gathered' : σ)
    (project : Path) (outcomes : List ProjectOutcome) (hproject : project.isAbsolute = true)
    (h : build hook d gathered (keyOf found project) = (.ok outcomes, after, gathered'))
    (hgood : hasFailed outcomes = false)
    (hrecords : Turn.RecordsApart (turnsOf hook d gathered (keyOf found project)) after)
    (hinputs : Turn.InputsApart (turnsOf hook d gathered (keyOf found project)) after)
    (hplain : Turn.OutputsPlain (turnsOf hook d gathered (keyOf found project)))
    (hreached : Turn.InputsReached (turnsOf hook d gathered (keyOf found project)) after) :
    ∃ ps, projects d (keyOf found project) = .ok ps ∧ AtRest after (keyOf found project) ps := by
  have hroot := isCanonical_keyOf found hproject
  obtain ⟨ps, hps, hturns, hall⟩ := buildAll_of_build h
  rw [hturns] at hrecords hinputs hplain hreached
  have horder := isOrder_of_projects hps
  have hprojects := (buildAll_ok hook hall).1
  have hturn : ∀ p ∈ ps, ∃ t ∈ turns hook [] d gathered ps, t.project = p := by
    intro p hp
    rw [← hprojects] at hp
    exact List.mem_map.1 hp
  have hps' : projects after (keyOf found project) = .ok ps := by
    refine (projects_after_build hroot h fun t ht key hkey => ?_).trans hps
    rw [hturns] at ht ⊢
    exact hinputs t ht key (List.mem_append_left _ (List.mem_append_left _ hkey))
  refine ⟨ps, hps, hps', hasFailed_upToDate ps, fun hook' state => ?_⟩
  rw [build, hps']
  refine buildAll_upToDate hook' after state ps rfl fun p hp => ?_
  obtain ⟨t, ht, rfl⟩ := hturn p hp
  exact upToDate_after_turn horder hroot hall hgood hrecords hinputs hplain hreached ht

def relay : Disk where
  entries :=
    [([['p']], .dir), ([['p'], ['e']], .file "\x7b\x7d".toUTF8),
      ([['p'], "tsconfig.json".toList], .file ("\x7b\"compilerOptions\":" ++
        "\x7b\"outDir\":\"o\",\"plugins\":[\x7b\"name\":\"tsconform\"," ++
        "\"exemptionConfig\":\"e\"\x7d]\x7d,\"files\":[]," ++
        "\"references\":[\x7b\"path\":\"../q\"\x7d]\x7d").toUTF8),
      ([['q']], .dir), ([['q'], ['a']], .file ("\x7b\"fileName\":\"a.ts\",\"text\":\"\"," ++
        "\"output\":\"a\",\"statements\":[]\x7d").toUTF8),
      ([['q'], "tsconfig.json".toList], .file ("\x7b\"compilerOptions\":" ++
        "\x7b\"outDir\":\"../o\"\x7d,\"files\":[\"a\"]\x7d").toUTF8)]
  here := []

theorem build_again_relay : ∃ outcomes after,
    build idle relay () (keyOf relay (.ofString "/p")) = (.ok outcomes, after, ()) ∧
      outcomes.map (·.status) = [.built, .built] ∧
      (turnsOf idle relay () (keyOf relay (.ofString "/p"))).map
        (·.outputs.map (·.text)) = [["/q/../o/a.js"], []] ∧
      ∃ ps, projects relay (keyOf relay (.ofString "/p")) = .ok ps ∧
        AtRest after (keyOf relay (.ofString "/p")) ps := by
  have hfacts : (build idle relay () (keyOf relay (.ofString "/p"))).1.toOption.map
        (·.map (·.status)) = some [.built, .built] ∧
      (turnsOf idle relay () (keyOf relay (.ofString "/p"))).map
        (·.outputs.map (·.text)) = [["/q/../o/a.js"], []] ∧
      Turn.RecordsApart (turnsOf idle relay () (keyOf relay (.ofString "/p")))
        (build idle relay () (keyOf relay (.ofString "/p"))).2.1 ∧
      Turn.InputsApart (turnsOf idle relay () (keyOf relay (.ofString "/p")))
        (build idle relay () (keyOf relay (.ofString "/p"))).2.1 ∧
      Turn.OutputsPlain (turnsOf idle relay () (keyOf relay (.ofString "/p"))) ∧
      Turn.InputsReached (turnsOf idle relay () (keyOf relay (.ofString "/p")))
        (build idle relay () (keyOf relay (.ofString "/p"))).2.1 := by
    decide +kernel
  obtain ⟨hstatuses, houtputs, hrecords, hinputs, hplain, hreached⟩ := hfacts
  obtain ⟨outcomes, hbuild, hstatuses, hgood⟩ := build_of_statuses hstatuses
  exact ⟨outcomes, _, hbuild, hstatuses, houtputs, build_again idle relay relay _ () ()
    (.ofString "/p") outcomes (by decide) hbuild hgood hrecords hinputs hplain hreached⟩

/-- The exemptions of a project by way of a directory that the build makes. -/
def roundabout : Disk where
  entries :=
    [([['p']], .dir), ([['p'], ['e']], .file "\x7b\x7d".toUTF8),
      ([['p'], "tsconfig.json".toList], .file ("\x7b\"compilerOptions\":" ++
        "\x7b\"outDir\":\"o\",\"plugins\":[\x7b\"name\":\"tsconform\"," ++
        "\"exemptionConfig\":\"o/../e\"\x7d]\x7d,\"files\":[]\x7d").toUTF8)]
  here := []

/-- **An input that comes into reach is a reason to build again**: the exemptions are out of reach
at the turn of the project, and the record goes to the directory that brings them into reach. -/
theorem not_atRest_roundabout : ∃ outcomes after,
    (Path.ofString "/p").isAbsolute = true ∧
    build idle roundabout () (keyOf roundabout (.ofString "/p")) = (.ok outcomes, after, ()) ∧
    hasFailed outcomes = false ∧
    Turn.RecordsApart (turnsOf idle roundabout () (keyOf roundabout (.ofString "/p"))) after ∧
    Turn.InputsApart (turnsOf idle roundabout () (keyOf roundabout (.ofString "/p"))) after ∧
    (∀ t ∈ turnsOf idle roundabout () (keyOf roundabout (.ofString "/p")),
      t.project.inputPaths after = t.project.inputPaths roundabout) ∧
    Turn.OutputsPlain (turnsOf idle roundabout () (keyOf roundabout (.ofString "/p"))) ∧
    ∀ ps, ¬ AtRest after (keyOf roundabout (.ofString "/p")) ps := by
  have hfacts : (build idle roundabout () (keyOf roundabout (.ofString "/p"))).1.toOption.map
        (·.map (·.status)) = some [.built] ∧
      Turn.RecordsApart (turnsOf idle roundabout () (keyOf roundabout (.ofString "/p")))
        (build idle roundabout () (keyOf roundabout (.ofString "/p"))).2.1 ∧
      Turn.InputsApart (turnsOf idle roundabout () (keyOf roundabout (.ofString "/p")))
        (build idle roundabout () (keyOf roundabout (.ofString "/p"))).2.1 ∧
      (∀ t ∈ turnsOf idle roundabout () (keyOf roundabout (.ofString "/p")),
        t.project.inputPaths (build idle roundabout () (keyOf roundabout (.ofString "/p"))).2.1 =
          t.project.inputPaths roundabout) ∧
      Turn.OutputsPlain (turnsOf idle roundabout () (keyOf roundabout (.ofString "/p"))) ∧
      (build idle (build idle roundabout () (keyOf roundabout (.ofString "/p"))).2.1 ()
        (keyOf roundabout (.ofString "/p"))).1.toOption.map (·.map (·.status)) =
          some [.built] := by
    decide +kernel
  obtain ⟨hstatuses, hrecords, hinputs, hsame, hplain, hagain⟩ := hfacts
  obtain ⟨outcomes, hbuild, -, hgood⟩ := build_of_statuses hstatuses
  refine ⟨outcomes, _, by decide, hbuild, hgood, hrecords, hinputs, hsame, hplain,
    fun ps hrest => ?_⟩
  rw [hrest.idle idle ()] at hagain
  cases ps with
  | nil => cases hagain
  | cons p ps => cases hagain

end Solution

end Conformance
