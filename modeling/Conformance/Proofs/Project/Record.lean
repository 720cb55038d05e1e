import Conformance.Project.BuildInfo
import Conformance.Proofs.Disk.Saving
import Conformance.Proofs.Disk.Spelling
import Conformance.Proofs.Json.RoundTrip
/-!
# Build records read back

A build is known later by its record alone.  The record comes back from the disk as it was written
(`read_of_write`), and the path that it keeps of an output, which is written as seen from the
directory of the project, leads to the output again (`resolve_outputName`), unless the path has a
backslash: a record has all of them as slashes.
-/
namespace Conformance.BuildInfo

open Json (Fits)

/-! ## The text of a record -/

theorem isSound_schema (r : Unit) : (schema r).IsSound := by
  refine ⟨by simp [schema], fun f hf => ?_⟩
  simp only [schema, List.mem_cons, List.not_mem_nil, or_false] at hf
  rcases hf with rfl | rfl | rfl <;> exact fun h => by cases h

theorem fits_toDatum (i : BuildInfo) : Fits schema Json.depthLimit (.record ()) i.toDatum := by
  have houtputs : Fits schema (Json.depthLimit - 1) (.list .text) (.list (i.outputs.map .text)) := by
    refine ⟨_, rfl, fun d hd => ?_⟩
    obtain ⟨s, -, rfl⟩ := List.mem_map.1 hd
    exact ⟨s, rfl⟩
  exact ⟨_, rfl, .cons (.inr ⟨_, rfl⟩) (.cons (.inr ⟨_, rfl⟩) (.cons (.inr houtputs) .nil))⟩

theorem ofDatum_toDatum (i : BuildInfo) : ofDatum i.toDatum = i := by
  simp [toDatum, ofDatum, Json.Datum.asText, Json.Datum.asList, Function.comp_def]

theorem parse_render (i : BuildInfo) : parse i.render = .ok i := by
  rw [parse, render, String.toList_ofList,
    Json.readRecord_pretty isSound_schema (fits_toDatum i), Except.map, ofDatum_toDatum]

/-! ## The file of a record -/

theorem fromUTF8?_toUTF8 (s : String) : String.fromUTF8? s.toUTF8 = some s := by
  unfold String.fromUTF8?
  split
  · rfl
  · rename_i hinvalid
    exact absurd s.isValidUTF8 hinvalid

theorem read_eq_some {d : Disk} {p : Project} {i : BuildInfo} : read d p = some i ↔
    ∃ text, d.readText p.buildInfoPath = .ok text ∧ parse text = .ok i := by
  unfold read
  cases htext : d.readText p.buildInfoPath with
  | error e => simp
  | ok text => cases hparse : parse text <;> simp [Except.toOption, hparse]

theorem read_of_resolve {d : Disk} {p : Project} {i : BuildInfo} {place : Place}
    (h : d.resolve p.buildInfoPath = .ok (place, .file i.render.toUTF8)) : read d p = some i := by
  have htext : d.readText p.buildInfoPath = .ok i.render :=
    Disk.readText_eq_ok.2 ⟨place, _, h, fromUTF8?_toUTF8 i.render⟩
  exact read_eq_some.2 ⟨i.render, htext, parse_render i⟩

theorem resolve_of_write {d d' : Disk} {p : Project} {i : BuildInfo}
    (h : write d p i = (.ok (), d')) :
    ∃ place, d'.resolve p.buildInfoPath = .ok (place, .file i.render.toUTF8) := by
  rcases d.save_cases p.buildInfoPath i.render with ⟨e, mid, hsave, -⟩ | ⟨mid, place, hsave, -, hres⟩
  · cases hsave.symm.trans h
  · cases hsave.symm.trans h
    exact ⟨place, hres⟩

/-! ## The names of outputs -/

theorem forwardSlashes_of_not_mem {cs : List Char} (h : '\\' ∉ cs) :
    ProjectPath.forwardSlashes cs = cs := by
  have hkeep : ∀ c ∈ cs, (if c = '\\' then '/' else c) = c := by
    intro c hc
    rw [if_neg]
    rintro rfl
    exact h hc
  rw [ProjectPath.forwardSlashes, List.map_congr_left hkeep, List.map_id']

theorem outputPath_of_kept {p : Project} {output : Path}
    (h : '\\' ∉ ((output.strip? p.dir).getD output).chars) :
    p.dir.join (.ofString (outputName p output)) =
      p.dir.join ((output.strip? p.dir).getD output) := by
  rw [outputName, forwardSlashes_of_not_mem h, Path.ofString, String.toList_ofList]

theorem outputPath_eq {p : Project} {output : Path} (h : '\\' ∉ output.chars) :
    p.dir.join (.ofString (outputName p output)) =
      p.dir.join ((output.strip? p.dir).getD output) := by
  refine outputPath_of_kept ?_
  cases hstrip : output.strip? p.dir with
  | none => exact h
  | some q => exact fun hmem => h ((Path.strip?_sublist hstrip).subset hmem)

/-- **What a record keeps of an output leads to the output**, as seen from the directory of the
project, unless the path of the output has a backslash. -/
theorem resolve_outputName {d : Disk} {p : Project} {output : Path} {lead : Path.Lead}
    {names : List (List Char)} (hdir : p.dir.IsNormal lead names)
    (hthere : ∃ place, d.follow (d.start p.dir) names = .ok (place, .dir))
    (hin : Path.StartsIn p.dir output) (hslash : '\\' ∉ output.chars) {place : Place}
    {bytes : ByteArray} (hres : d.resolve output = .ok (place, .file bytes)) :
    d.resolve (p.dir.join (.ofString (outputName p output))) = .ok (place, .file bytes) := by
  rw [outputPath_eq hslash]
  refine Disk.resolve_of_trimmed (hdir.trimmed_join_strip? hin (Disk.dropIdleEnd_of_file hres) ?_)
    hres
  -- the output is a file, so it is not the directory
  intro hlead htrims
  have hfollow := Disk.follow_of_trims htrims (Disk.follow_of_resolve hres).2
  have hstart : d.start output = d.start p.dir := by
    unfold Disk.start Path.isAbsolute
    rw [hlead, hdir.lead_eq]
  obtain ⟨dir, hdirFollow⟩ := hthere
  rw [hstart, hdirFollow] at hfollow
  cases hfollow

end Conformance.BuildInfo
