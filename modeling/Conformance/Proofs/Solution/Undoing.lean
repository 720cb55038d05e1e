import Conformance.Proofs.Solution.Leaving
/-!
# Cleaning after a build

Cleaning removes what the records name and then the records.  What a project leaves is gone after
that, if its record is the one that the build wrote and still stands when the project is cleaned,
and if the record names the outputs: a record has slashes for all backslashes, so an output with a
backslash in its path is one that cleaning does not find.
-/
namespace Conformance

open Disk (Grows Shrinks)

/-! ## What cleaning takes -/

namespace Project

theorem find?_removeFile {d : Disk} {p : Path} {place : Place} {e : Entry}
    (hfind : d.find? place = some e) (hp : d.place? p ≠ some place) :
    (d.removeFile p).2.find? place = some e := by
  rcases d.removeFile_cases p with ⟨_, h, -⟩ | ⟨other, bytes, hres, h⟩
  · rw [h]
    exact hfind
  · have hne : other ≠ place := by
      rintro rfl
      exact hp (Disk.place?_eq_some.2 ⟨_, hres⟩)
    rw [h, Disk.find?_erase_of_ne d hne]
    exact hfind

theorem place?_of_shrinks {d d' : Disk} (h : Shrinks d d') {p : Path} {place : Place}
    (hp : d'.place? p = some place) : d.place? p = some place := by
  obtain ⟨e, hres⟩ := Disk.place?_eq_some.1 hp
  exact Disk.place?_eq_some.2 ⟨e, h.resolve hres⟩

/-- **What no path leads to is left alone.** -/
theorem find?_removeFiles : ∀ {ps : List Path} {d : Disk} {place : Place} {e : Entry},
    d.find? place = some e → (∀ p ∈ ps, d.place? p ≠ some place) →
      (removeFiles d ps).2.find? place = some e
  | [], _, _, _, hfind, _ => hfind
  | p :: ps, d, place, e, hfind, hps => by
    have hfirst := find?_removeFile hfind (hps p List.mem_cons_self)
    have hrest : (removeFiles (d.removeFile p).2 ps).2.find? place = some e := by
      refine find?_removeFiles hfirst fun q hq hplace => ?_
      exact hps q (List.mem_cons_of_mem p hq)
        (place?_of_shrinks (d.shrinks_removeFile p) hplace)
    rw [removeFiles]
    split
    · rename_i d' hd'
      rw [hd'] at hrest
      exact hrest
    · rename_i d' _ hd'
      rw [hd'] at hfirst
      exact hfirst
    · rename_i d' hd'
      rw [hd'] at hrest
      split
      · rename_i hd''
        rw [hd''] at hrest
        exact hrest
      · rename_i hd''
        rw [hd''] at hrest
        exact hrest

theorem leavings_of_shrinks {d d' : Disk} (h : Shrinks d d') (p : Project) :
    p.leavings d' ⊆ p.leavings d := by
  unfold leavings
  cases hread : BuildInfo.read d' p with
  | none => exact List.subset_append_right _ _
  | some info =>
    obtain ⟨text, htext, hparse⟩ := BuildInfo.read_eq_some.1 hread
    rw [BuildInfo.read_eq_some.2 ⟨text, h.readText htext, hparse⟩]
    exact List.Subset.refl _

end Project

namespace Solution

/-- **What a project finds when it is cleaned**: all that was there, but for what the projects
before it name. And what it names is out of reach from then on. -/
theorem cleanAll_split : ∀ {before : List Project} {d final : Disk} {removed : List Path}
    {p : Project} {rest : List Project},
    cleanAll d (before ++ p :: rest) = (.ok removed, final) → ∃ mid, Shrinks d mid ∧
      (∀ path ∈ p.leavings mid, final.holds path = false) ∧
      ∀ place e, d.find? place = some e →
        (∀ q ∈ before, ∀ path ∈ q.leavings d, d.place? path ≠ some place) →
        mid.find? place = some e
  | [], d, final, removed, p, rest, h => by
    rw [List.nil_append, cleanAll] at h
    split at h
    · cases h
    · rename_i first mid hmid
      split at h
      · cases h
      · rename_i more d' hmore
        cases h
        have hrest := shrinks_cleanAll rest mid
        rw [hmore] at hrest
        exact ⟨d, .refl d, fun path hpath => hrest.holds (Project.holds_removeFiles hmid path hpath),
          fun _ _ hfind _ => hfind⟩
  | q :: before, d, final, removed, p, rest, h => by
    rw [List.cons_append, cleanAll] at h
    split at h
    · cases h
    · rename_i first d₁ hd₁
      split at h
      · cases h
      · rename_i more d' hmore
        cases h
        obtain ⟨mid, hshrinks, hgone, hkept⟩ := cleanAll_split hmore
        have hfirst := q.shrinks_clean d
        rw [hd₁] at hfirst
        refine ⟨mid, hfirst.trans hshrinks, hgone, fun place e hfind hapart => ?_⟩
        have hfind₁ : d₁.find? place = some e := by
          have hkeeps := Project.find?_removeFiles hfind (hapart q List.mem_cons_self)
          rw [← Project.clean, hd₁] at hkeeps
          exact hkeeps
        -- what a project names on the smaller disk it named before, and at the same place
        refine hkept place e hfind₁ fun q' hq' path hpath hplace => ?_
        exact hapart q' (List.mem_cons_of_mem q hq') path
          (Project.leavings_of_shrinks hfirst q' hpath) (Project.place?_of_shrinks hfirst hplace)

end Solution

namespace Turn

variable {σ : Type}

/-- No record that was good at its turn names the record of a project that was checked. -/
def RecordedApart (ts : List (Turn σ)) (after : Disk) : Prop :=
  ∀ t ∈ ts, t.isChecked = true → ∀ t' ∈ ts, t'.isUpToDate = true →
    ∀ path ∈ t'.project.leavings after, after.meet t.project.buildInfoPath path = false

instance (ts : List (Turn σ)) (after : Disk) : Decidable (RecordedApart ts after) :=
  inferInstanceAs (Decidable (∀ t ∈ ts, t.isChecked = true → ∀ t' ∈ ts, t'.isUpToDate = true → _))

end Turn

namespace Solution

variable {σ ε : Type} {hook : Hook σ ε} {d after : Disk} {gathered gathered' : σ} {root : Path}
  {ps : List Project} {outcomes : List ProjectOutcome}

/-! ## After a build -/

theorem leavings_of_isChecked (horder : IsOrder d root ps)
    (hroot : ∃ lead names, root.IsNormal lead names) {t : Turn σ}
    (ht : t ∈ turns hook [] d gathered ps) (hgrows : Grows d after) (hleaves : t.Leaves after)
    (hplain : ∀ w ∈ t.outputs, '\\' ∉ w.chars) :
    t.project.leavings after = t.outputs.map (fun w =>
        t.project.dir.join (.ofString (BuildInfo.outputName t.project w))) ++
          [t.project.buildInfoPath] ∧
      ∀ w ∈ t.outputs, ∃ place bytes, after.resolve w = .ok (place, .file bytes) ∧
        after.resolve (t.project.dir.join (.ofString (BuildInfo.outputName t.project w))) =
          .ok (place, .file bytes) := by
  obtain ⟨key, lead, names, -, hload, hkey⟩ := horder.normal hroot (project_mem_of_turn ht)
  refine ⟨?_, fun w hw => hleaves.resolve_outputName hload hkey hgrows hw (hplain w hw)⟩
  rw [Project.leavings, hleaves.read]
  simp [BuildInfo.of, BuildInfo.outputPaths, Function.comp_def]

theorem meet_leavings_eq_false (horder : IsOrder d root ps)
    (hroot : ∃ lead names, root.IsNormal lead names)
    (h : buildAll hook [] d gathered ps = (.ok outcomes, after, gathered'))
    (hgood : hasFailed outcomes = false)
    (hrecords : Turn.RecordsApart (turns hook [] d gathered ps) after)
    (hrecorded : Turn.RecordedApart (turns hook [] d gathered ps) after)
    (hplain : Turn.OutputsPlain (turns hook [] d gathered ps)) {t t' : Turn σ}
    (ht : t ∈ turns hook [] d gathered ps) (ht' : t' ∈ turns hook [] d gathered ps)
    (hchecked : t.isChecked = true) (hne : t'.project.configPath ≠ t.project.configPath) :
    ∀ path ∈ t'.project.leavings after, after.meet t.project.buildInfoPath path = false := by
  intro path hpath
  obtain ⟨hrecord, houtput⟩ := hrecords t ht t' ht'
  rcases passed_of_good h hgood t' ht' with hupToDate | ⟨hchecked', o, hresult⟩
  · exact hrecorded t ht hchecked t' ht' hupToDate path hpath
  · have hleaves := leaves_of_isChecked horder.once h hrecords ht' hchecked' hresult
    obtain ⟨heq, hplaces⟩ := leavings_of_isChecked horder hroot ht' (saves_of_buildAll h).wrote.grows hleaves
      (hplain t' ht')
    rw [heq] at hpath
    rcases List.mem_append.1 hpath with hpath | hpath
    · obtain ⟨w, hw, rfl⟩ := List.mem_map.1 hpath
      obtain ⟨place, bytes, hres, hres'⟩ := hplaces w hw
      have hmeet := houtput w hw
      unfold Disk.meet Disk.place? at hmeet ⊢
      rw [hres'] at ⊢
      rw [hres] at hmeet
      exact hmeet
    · rw [List.mem_singleton.1 hpath]
      exact hrecord hne

theorem holds_leavings_of_cleanAll (horder : IsOrder d root ps)
    (hroot : ∃ lead names, root.IsNormal lead names)
    (h : buildAll hook [] d gathered ps = (.ok outcomes, after, gathered'))
    (hgood : hasFailed outcomes = false) {removed : List Path} {final : Disk}
    (hclean : cleanAll after ps = (.ok removed, final))
    (hrecords : Turn.RecordsApart (turns hook [] d gathered ps) after)
    (hrecorded : Turn.RecordedApart (turns hook [] d gathered ps) after)
    (hplain : Turn.OutputsPlain (turns hook [] d gathered ps)) {t : Turn σ}
    (ht : t ∈ turns hook [] d gathered ps) (hchecked : t.isChecked = true)
    (hleaves : t.Leaves after) : ∀ path ∈ t.project.leavings after, final.holds path = false := by
  obtain ⟨before, rest, hsplit⟩ := List.append_of_mem ht
  have hprojects : ps = before.map (·.project) ++ t.project :: rest.map (·.project) := by
    rw [← (buildAll_ok hook h).1, hsplit, List.map_append, List.map_cons]
  rw [hprojects] at hclean
  obtain ⟨mid, hshrinks, hgone, hkept⟩ := cleanAll_split hclean
  -- the record still stands when the project is cleaned, so the same is named
  obtain ⟨place, hres⟩ := hleaves.record
  have hapart : ∀ q ∈ before.map (·.project), ∀ path ∈ q.leavings after,
      after.place? path ≠ some place := by
    intro q hq path hpath
    obtain ⟨t', ht', rfl⟩ := List.mem_map.1 hq
    have ht'mem : t' ∈ turns hook [] d gathered ps := by
      rw [hsplit]
      exact List.mem_append_left _ ht'
    exact Disk.meet_eq_false (meet_leavings_eq_false horder hroot h hgood hrecords hrecorded hplain
      ht ht'mem hchecked (configPath_ne_of_turns horder.once hsplit ht') path hpath)
      (Disk.place?_eq_some.2 ⟨_, hres⟩)
  have hstands := hkept place _ (Disk.find?_of_resolve hres) hapart
  have hread : BuildInfo.read mid t.project = BuildInfo.read after t.project := by
    rw [BuildInfo.read_of_resolve (hshrinks.resolve_kept hres hstands),
      BuildInfo.read_of_resolve hres]
  have hnamed : t.project.leavings after = t.project.leavings mid := by
    rw [Project.leavings, Project.leavings, hread]
  rw [hnamed]
  exact hgone

/-- **Cleaning undoes a build**: no file that a good build saved is there after cleaning, if
cleaning finds the solution that was built, the records are apart from one another, from all outputs
and from what older records name, and no output has a backslash in its path. -/
theorem clean_undoes_build (hook : Hook σ ε) (found d after final : Disk) (gathered gathered' : σ)
    (project : Path) (outcomes : List ProjectOutcome) (removed : List Path)
    (h : build hook d gathered (keyOf found project) = (.ok outcomes, after, gathered'))
    (hgood : hasFailed outcomes = false)
    (hclean : clean after (keyOf found project) = (.ok removed, final))
    (hsame : projects after (keyOf found project) = projects d (keyOf found project))
    (hrecords : Turn.RecordsApart (turnsOf hook d gathered (keyOf found project)) after)
    (hrecorded : Turn.RecordedApart (turnsOf hook d gathered (keyOf found project)) after)
    (hplain : Turn.OutputsPlain (turnsOf hook d gathered (keyOf found project))) :
    ∀ t ∈ turnsOf hook d gathered (keyOf found project), ∀ w ∈ t.saved,
      ∃ place bytes, after.resolve w = .ok (place, .file bytes) ∧ final.find? place = none := by
  have hroot : ∃ lead names, (keyOf found project).IsNormal lead names :=
    Path.isNormal_normalize _
  obtain ⟨ps, hps, hturns, hall⟩ := buildAll_of_build h
  rw [hturns] at hrecords hrecorded hplain ⊢
  have horder := isOrder_of_projects hps
  rw [clean, hsame, hps] at hclean
  dsimp only at hclean
  have hshrinks := shrinks_cleanAll ps after
  rw [hclean] at hshrinks
  intro t ht w hw
  rcases passed_of_good hall hgood t ht with hupToDate | ⟨hchecked, o, hresult⟩
  · rw [Turn.saved_of_isUpToDate hupToDate] at hw
    cases hw
  · have hleaves := leaves_of_isChecked horder.once hall hrecords ht hchecked hresult
    obtain ⟨heq, hplaces⟩ := leavings_of_isChecked horder hroot ht (saves_of_buildAll hall).wrote.grows hleaves
      (hplain t ht)
    have hgone := holds_leavings_of_cleanAll horder hroot hall hgood hclean hrecords hrecorded
      hplain ht hchecked hleaves
    rw [heq] at hgone
    rw [Turn.saved_of_isChecked hchecked, ← Turn.outputs_of_isChecked hchecked] at hw
    rcases List.mem_append.1 hw with hw | hw
    · obtain ⟨place, bytes, hres, hres'⟩ := hplaces w hw
      refine ⟨place, bytes, hres, hshrinks.find?_eq_none hres' (hgone _ ?_)⟩
      exact List.mem_append_left _ (List.mem_map.2 ⟨w, hw, rfl⟩)
    · obtain ⟨place, hres⟩ := hleaves.record
      rw [List.mem_singleton.1 hw]
      refine ⟨place, _, hres, hshrinks.find?_eq_none hres (hgone _ ?_)⟩
      exact List.mem_append_right _ List.mem_cons_self

def outputIn (dir : String) : Disk where
  entries :=
    [([['p']], .dir), ([['p'], ['a']], .file ("\x7b\"fileName\":\"a.ts\",\"text\":\"\"," ++
        "\"output\":\"a\",\"statements\":[]\x7d").toUTF8),
      ([['p'], "tsconfig.json".toList], .file ("\x7b\"compilerOptions\":\x7b\"outDir\":\"" ++
        dir ++ "\",\"tsBuildInfoFile\":\"i\"\x7d,\"files\":[\"a\"]\x7d").toUTF8)]
  here := []

def upright : Disk := outputIn "o"

theorem clean_undoes_build_upright : ∃ outcomes after removed final,
    build idle upright () (keyOf upright (.ofString "/p")) = (.ok outcomes, after, ()) ∧
      outcomes.map (·.status) = [.built] ∧
      clean after (keyOf upright (.ofString "/p")) = (.ok removed, final) ∧
      removed.map (·.text) = ["/p/o/a.js", "/p/i"] ∧
      ∀ t ∈ turnsOf idle upright () (keyOf upright (.ofString "/p")), ∀ w ∈ t.saved,
        ∃ place bytes, after.resolve w = .ok (place, .file bytes) ∧ final.find? place = none := by
  have hfacts : (build idle upright () (keyOf upright (.ofString "/p"))).1.toOption.map
        (·.map (·.status)) = some [.built] ∧
      (clean (build idle upright () (keyOf upright (.ofString "/p"))).2.1
        (keyOf upright (.ofString "/p"))).1 = .ok [.ofString "/p/o/a.js", .ofString "/p/i"] ∧
      (∀ t ∈ turnsOf idle upright () (keyOf upright (.ofString "/p")),
        ∀ key ∈ t.project.configPath.toList,
        ∀ t' ∈ turnsOf idle upright () (keyOf upright (.ofString "/p")), ∀ w ∈ t'.saved,
          (build idle upright () (keyOf upright (.ofString "/p"))).2.1.meet key w = false) ∧
      Turn.RecordsApart (turnsOf idle upright () (keyOf upright (.ofString "/p")))
        (build idle upright () (keyOf upright (.ofString "/p"))).2.1 ∧
      Turn.RecordedApart (turnsOf idle upright () (keyOf upright (.ofString "/p")))
        (build idle upright () (keyOf upright (.ofString "/p"))).2.1 ∧
      Turn.OutputsPlain (turnsOf idle upright () (keyOf upright (.ofString "/p"))) := by
    decide +kernel
  obtain ⟨hstatuses, hclean, hconfigs, hrecords, hrecorded, hplain⟩ := hfacts
  obtain ⟨outcomes, hbuild, hstatuses, hgood⟩ := build_of_statuses hstatuses
  have hclean := SolutionRequest.clean_eq hclean
  have hsame := projects_after_build (isCanonical_keyOf upright (by decide)) hbuild hconfigs
  exact ⟨outcomes, _, _, _, hbuild, hstatuses, hclean, by decide, clean_undoes_build idle upright
    upright _ _ () () (.ofString "/p") outcomes _ hbuild hgood hclean hsame hrecords hrecorded
    hplain⟩

def slanted : Disk := outputIn "o\\\\u"

/-- **Cleaning may leave an output**: its record names it with a slash for the backslash. -/
theorem not_undone_slanted : ∃ outcomes after removed final,
    build idle slanted () (keyOf slanted (.ofString "/p")) = (.ok outcomes, after, ()) ∧
      hasFailed outcomes = false ∧
      clean after (keyOf slanted (.ofString "/p")) = (.ok removed, final) ∧
      ∃ t ∈ turnsOf idle slanted () (keyOf slanted (.ofString "/p")), ∃ w ∈ t.outputs,
        final.holds w = true := by
  have hfacts : (build idle slanted () (keyOf slanted (.ofString "/p"))).1.toOption.map
        (·.map (·.status)) = some [.built] ∧
      (clean (build idle slanted () (keyOf slanted (.ofString "/p"))).2.1
        (keyOf slanted (.ofString "/p"))).1 = .ok [.ofString "/p/i"] ∧
      ∃ t ∈ turnsOf idle slanted () (keyOf slanted (.ofString "/p")), ∃ w ∈ t.outputs,
        (clean (build idle slanted () (keyOf slanted (.ofString "/p"))).2.1
          (keyOf slanted (.ofString "/p"))).2.holds w = true := by
    decide +kernel
  obtain ⟨hstatuses, hclean, hleft⟩ := hfacts
  obtain ⟨outcomes, hbuild, -, hgood⟩ := build_of_statuses hstatuses
  exact ⟨outcomes, _, _, _, hbuild, hgood, SolutionRequest.clean_eq hclean, hleft⟩

end Solution

end Conformance
