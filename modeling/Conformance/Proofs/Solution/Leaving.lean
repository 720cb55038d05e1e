import Conformance.Proofs.Project.Locating
import Conformance.Proofs.Project.Record
import Conformance.Proofs.Solution.Failure
import Conformance.Proofs.Solution.Leftover
/-!
# What a good build leaves

In a build that has not failed every project was up to date at its turn or was checked.  One that was
checked leaves its outputs and its record (`Leaves`), and they are there when the build ends: places
stay what they are, and no later turn saves a file where the record is.
-/
namespace Conformance

open Disk (Grows Saves Wrote)

namespace Turn

variable {σ ε : Type}

/-- What a checked project leaves on a disk: a record of this turn, and every output at the place
that it was emitted to. -/
structure Leaves (t : Turn σ) (after : Disk) : Prop where
  record : ∃ place, after.resolve t.project.buildInfoPath =
    .ok (place, .file (BuildInfo.of t.project t.signature t.outputs).render.toUTF8)
  outputs : ∀ w ∈ t.outputs, ∃ place bytes, after.resolve w = .ok (place, .file bytes)

theorem outputPath_of_mem {t : Turn σ} {w : Path} (h : w ∈ t.outputs) :
    (∃ f, t.project.outputPath f = some w) ∧
      ∃ place bytes, t.emitted.2.resolve w = .ok (place, .file bytes) := by
  unfold outputs at h
  split at h
  · cases h
  · unfold emitted Project.emit at h ⊢
    split at h
    · cases h
    · rename_i hemit
      rw [if_neg hemit]
      obtain ⟨⟨f, -, hf⟩, hplace⟩ := resolve_emitFiles t.project _ t.disk w h
      exact ⟨⟨f, hf⟩, hplace⟩

/-- No output has a backslash in its path. -/
def OutputsPlain (ts : List (Turn σ)) : Prop := ∀ t ∈ ts, ∀ w ∈ t.outputs, '\\' ∉ w.chars

instance (ts : List (Turn σ)) : Decidable (OutputsPlain ts) :=
  inferInstanceAs (Decidable (∀ t ∈ ts, ∀ w ∈ t.outputs, _))

theorem leaves_result {hook : Hook σ ε} {t : Turn σ} (hchecked : t.isChecked = true)
    {o : ProjectOutcome} (hresult : (t.result hook).1 = .ok o) :
    t.Leaves (t.result hook).2.1 := by
  have hends := t.result_ends hook
  generalize t.result hook = r at hends hresult
  cases hends with
  | skipped hblocked => simp [isChecked, passes, hblocked] at hchecked
  | upToDate _ hupToDate => simp [isChecked, hupToDate] at hchecked
  | overflowing _ _ hknown => simp [isChecked, passes, loads_of_overflow hknown] at hchecked
  | faulty _ _ hknown herror =>
    simp [isChecked, passes, loads_of_anyError hknown herror] at hchecked
  | unwritten _ _ _ hemit => simp [isChecked, passes, hemit] at hchecked
  | refused _ _ => cases hresult
  | unrecorded _ _ _ => cases hresult
  | @built d gathered _ _ hwrite =>
    rw [← outputs_of_isChecked hchecked] at hwrite
    have hgrows : Grows t.emitted.2 d := by
      rcases t.emitted.2.save_cases t.project.buildInfoPath _ with
        ⟨e, d', h, -⟩ | ⟨d', place, h, hedits, -⟩
      · cases h.symm.trans hwrite
      · cases h.symm.trans hwrite
        exact hedits.wrote.grows
    refine ⟨BuildInfo.resolve_of_write hwrite, fun w hw => ?_⟩
    obtain ⟨-, place, bytes, hres⟩ := outputPath_of_mem hw
    obtain ⟨bytes', hres'⟩ := hgrows.resolve_file hres
    exact ⟨place, bytes', hres'⟩

end Turn

namespace Solution

variable {σ ε : Type} {hook : Hook σ ε} {d after : Disk} {gathered gathered' : σ} {root : Path}
  {ps : List Project} {outcomes : List ProjectOutcome}

/-! ## The turns of a build that ended -/

def turnsOf (hook : Hook σ ε) (d : Disk) (gathered : σ) (root : Path) : List (Turn σ) :=
  match projects d root with
  | .error _ => []
  | .ok ps => turns hook [] d gathered ps

theorem buildAll_of_build (h : build hook d gathered root = (.ok outcomes, after, gathered')) :
    ∃ ps, projects d root = .ok ps ∧ turnsOf hook d gathered root = turns hook [] d gathered ps ∧
      buildAll hook [] d gathered ps = (.ok outcomes, after, gathered') := by
  unfold build at h
  unfold turnsOf
  cases hps : projects d root with
  | error e =>
    rw [hps] at h
    cases h
  | ok ps =>
    rw [hps] at h
    exact ⟨ps, rfl, rfl, h⟩

/-- **In a build that has not failed a project is passed over or checked**, and its turn has an
outcome. -/
theorem passed_of_good (h : buildAll hook [] d gathered ps = (.ok outcomes, after, gathered'))
    (hgood : hasFailed outcomes = false) : ∀ t ∈ turns hook [] d gathered ps,
      t.isUpToDate = true ∨ t.isChecked = true ∧ ∃ o, (t.result hook).1 = .ok o := by
  intro t ht
  have houtcome : (t.result hook).1.toOption ∈ outcomes.map some := by
    rw [(buildAll_ok hook h).2]
    exact List.mem_append_right _ (List.mem_map.2 ⟨t, ht, rfl⟩)
  obtain ⟨o, ho, hsome⟩ := List.mem_map.1 houtcome
  have hresult := eq_ok_of_toOption hsome.symm
  have hstatus : o.status.isBad = false := by simpa using List.any_eq_false.1 hgood o ho
  rcases isBad_eq_false.1 hstatus with hbuilt | hupToDate
  · exact .inr ⟨(Turn.tells_of_result hresult).built.1 hbuilt, o, hresult⟩
  · have hpassed : t.status? hook = some .upToDate := by rw [Turn.status?, ← hsome, ← hupToDate]; rfl
    exact .inl ((t.status?_eq_upToDate hook).1 hpassed).2

theorem project_mem_of_turn {t : Turn σ} (ht : t ∈ turns hook [] d gathered ps) :
    t.project ∈ ps :=
  (turns_project hook ps [] d gathered).subset (List.mem_map.2 ⟨t, ht, rfl⟩)

theorem saves_of_buildAll (h : buildAll hook [] d gathered ps = (.ok outcomes, after, gathered')) :
    Saves ((turns hook [] d gathered ps).flatMap Turn.saved) d after := by
  have hsaves := saves_buildAll hook ps [] d gathered
  rw [h] at hsaves
  exact hsaves

theorem saves_from_turn (h : buildAll hook [] d gathered ps = (.ok outcomes, after, gathered'))
    {before rest : List (Turn σ)} {t : Turn σ}
    (hsplit : turns hook [] d gathered ps = before ++ t :: rest) :
    Saves ((t :: rest).flatMap Turn.saved) t.disk after := by
  obtain ⟨-, hlater⟩ := saves_turns hook ps [] d gathered before t rest hsplit
  rw [h] at hlater
  rw [List.flatMap_cons]
  exact ((t.saves_result hook).saves (List.subset_append_left _ _)).trans
    (hlater.saves (List.subset_append_right _ _))

theorem grows_to_turn {t : Turn σ} (ht : t ∈ turns hook [] d gathered ps) : Grows d t.disk := by
  obtain ⟨before, rest, hsplit⟩ := List.append_of_mem ht
  exact (saves_turns hook ps [] d gathered before t rest hsplit).1.wrote.grows

/-! ## What is there when the build ends -/

theorem meet_record_eq_false (hps : (ps.map (·.configPath)).Nodup)
    {before rest : List (Turn σ)} {t : Turn σ}
    (hsplit : turns hook [] d gathered ps = before ++ t :: rest)
    (hapart : Turn.RecordsApart (turns hook [] d gathered ps) after) :
    ∀ w ∈ rest.flatMap Turn.saved, after.meet t.project.buildInfoPath w = false := by
  intro w hw
  obtain ⟨t', ht', hw⟩ := List.mem_flatMap.1 hw
  have ht : t ∈ turns hook [] d gathered ps := by
    rw [hsplit]
    exact List.mem_append_right _ List.mem_cons_self
  have ht'mem : t' ∈ turns hook [] d gathered ps := by
    rw [hsplit]
    exact List.mem_append_right _ (List.mem_cons_of_mem t ht')
  obtain ⟨hrecord, houtput⟩ := hapart t ht t' ht'mem
  rcases List.mem_append.1 hw with hw | hw
  · exact houtput w hw
  · split at hw
    · rw [List.mem_singleton.1 hw]
      obtain ⟨mid, last, rfl⟩ := List.append_of_mem ht'
      have hlater : turns hook [] d gathered ps = (before ++ t :: mid) ++ t' :: last := by
        rw [hsplit, List.append_assoc, List.cons_append]
      refine hrecord (Ne.symm (configPath_ne_of_turns hps hlater ?_))
      exact List.mem_append_right _ List.mem_cons_self
    · cases hw

/-- **What a checked project leaves is there when the build ends.** -/
theorem leaves_of_isChecked (hps : (ps.map (·.configPath)).Nodup)
    (h : buildAll hook [] d gathered ps = (.ok outcomes, after, gathered'))
    (hapart : Turn.RecordsApart (turns hook [] d gathered ps) after) {t : Turn σ}
    (ht : t ∈ turns hook [] d gathered ps) (hchecked : t.isChecked = true) {o : ProjectOutcome}
    (hresult : (t.result hook).1 = .ok o) : t.Leaves after := by
  obtain ⟨before, rest, hsplit⟩ := List.append_of_mem ht
  obtain ⟨-, hlater⟩ := saves_turns hook ps [] d gathered before t rest hsplit
  rw [h] at hlater
  obtain ⟨⟨place, hrecord⟩, houtputs⟩ := Turn.leaves_result hchecked hresult
  refine ⟨⟨place, hlater.wrote.resolve hrecord (meet_record_eq_false hps hsplit hapart)⟩,
    fun w hw => ?_⟩
  obtain ⟨place, bytes, hres⟩ := houtputs w hw
  obtain ⟨bytes', hres'⟩ := hlater.wrote.grows.resolve_file hres
  exact ⟨place, bytes', hres'⟩

theorem projects_of_wrote {paths : List Path} (hwrote : Wrote paths d after)
    (hroot : ∃ names, root.IsCanonical names) (hps : projects d root = .ok ps)
    (hapart : ∀ p ∈ ps, ∀ key ∈ p.configPath, ∀ w ∈ paths, after.meet key w = false) :
    projects after root = .ok ps := by
  have horder := isOrder_of_projects hps
  obtain ⟨names, hnames⟩ := hroot
  refine projects_transfer (Reaches d root) (fun key p hreach hload => ⟨?_, fun r hr => ?_⟩)
    hnames .refl hps
  · obtain ⟨q, hq, hkey⟩ := List.mem_map.1 ((horder.whole key).2 hreach)
    obtain ⟨text, c, htext, hparse, hconfig⟩ := load_eq_ok.1 hload
    exact load_eq_ok.2 ⟨text, c, hwrote.readText htext (hapart q hq key hkey), hparse, hconfig⟩
  · have hneeded : Reaches d root (keyOf d r) :=
      hreach.tail ⟨p, hload, List.mem_map.2 ⟨r, hr, rfl⟩⟩
    obtain ⟨names', hnames'⟩ := isCanonical_of_reaches ⟨names, hnames⟩ hreach
    obtain ⟨q, hq, hkey⟩ := List.mem_map.1 ((horder.whole _).2 hneeded)
    obtain ⟨key', hkey', hload'⟩ := horder.loaded q hq
    cases hkey.symm.trans hkey'
    exact ⟨hneeded, keyOf_of_grows hwrote.grows
      (isAbsolute_of_mem_references hnames' hload hr) ⟨q, hload'⟩⟩

theorem projects_after_build (hroot : ∃ names, root.IsCanonical names)
    (h : build hook d gathered root = (.ok outcomes, after, gathered'))
    (hapart : ∀ t ∈ turnsOf hook d gathered root, ∀ key ∈ t.project.configPath.toList,
      ∀ t' ∈ turnsOf hook d gathered root, ∀ w ∈ t'.saved, after.meet key w = false) :
    projects after root = projects d root := by
  obtain ⟨ps, hps, hturns, hall⟩ := buildAll_of_build h
  rw [hturns] at hapart
  rw [hps]
  refine projects_of_wrote (saves_of_buildAll hall).wrote hroot hps fun p hp key hkey w hw => ?_
  rw [← (buildAll_ok hook hall).1] at hp
  obtain ⟨t, ht, rfl⟩ := List.mem_map.1 hp
  obtain ⟨t', ht', hw⟩ := List.mem_flatMap.1 hw
  exact hapart t ht key (Option.mem_toList.2 hkey) t' ht' w hw

theorem build_of_statuses {hook : Hook Unit ε} {statuses : List ProjectStatus}
    (h : (build hook d () root).1.toOption.map (·.map (·.status)) = some statuses) :
    ∃ outcomes, build hook d () root = (.ok outcomes, (build hook d () root).2.1, ()) ∧
      outcomes.map (·.status) = statuses ∧ hasFailed outcomes = statuses.any (·.isBad) := by
  obtain ⟨outcomes, houtcomes, rfl⟩ := exists_eq_ok_of_map h
  refine ⟨outcomes, ?_, rfl, ?_⟩
  · rw [← houtcomes]
  · rw [List.any_map]
    rfl

end Solution

namespace Turn

variable {σ : Type}

theorem Leaves.read {t : Turn σ} {after : Disk} (h : t.Leaves after) :
    BuildInfo.read after t.project = some (.of t.project t.signature t.outputs) := by
  obtain ⟨place, hres⟩ := h.record
  exact BuildInfo.read_of_resolve hres

/-- **What the record keeps of an output leads to the output**, on a disk on which the project is in
its place. -/
theorem Leaves.resolve_outputName {t : Turn σ} {d after : Disk} (h : t.Leaves after) {key : Path}
    {lead : Path.Lead} {names : List (List Char)} (hload : Project.load d key = .ok t.project)
    (hkey : key.IsNormal lead names) (hgrows : Grows d after) {w : Path} (hw : w ∈ t.outputs)
    (hslash : '\\' ∉ w.chars) : ∃ place bytes, after.resolve w = .ok (place, .file bytes) ∧
      after.resolve (t.project.dir.join (.ofString (BuildInfo.outputName t.project w))) =
        .ok (place, .file bytes) := by
  obtain ⟨place, bytes, hres⟩ := h.outputs w hw
  obtain ⟨⟨f, hf⟩, -⟩ := outputPath_of_mem hw
  obtain ⟨hdir, dir, hfollow⟩ := Project.dir_of_load hload hkey
  have hthere : ∃ place, after.follow (after.start t.project.dir) names.dropLast =
      .ok (place, .dir) := by
    obtain ⟨e, hfollow', hkind⟩ := hgrows.follow Iff.rfl hfollow
    rw [hkind.2 rfl] at hfollow'
    rw [hgrows.start]
    exact ⟨dir, hfollow'⟩
  exact ⟨place, bytes, hres, BuildInfo.resolve_outputName hdir hthere
    (Project.startsIn_outputPath hload hdir hf) hslash hres⟩

end Turn

end Conformance
