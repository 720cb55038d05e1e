import Conformance.Proofs.Exempting
import Conformance.Proofs.Path.Joining
import Conformance.Proofs.Project.Emitting
import Conformance.Proofs.Project.Loading
import Conformance.Proofs.Project.Record
/-!
# Paths shown as seen from a directory

What is shown to a caller is a project path: a path as seen from the directory of the caller, or
the whole path where it lies elsewhere.  Joined with the directory it leads back, whatever the
directory: the steps of the two together are the steps of the path (`components_join_relativeTo`),
so they normalize to the same path.  Only a backslash would be lost, which project paths have as a
slash; and all that is said about a project is said of project paths (`isPlain_of_check`).
-/
namespace Conformance

open Text (splitOn joinWith)

namespace Path

/-! ## Steps -/

theorem Trims.stepsOf_eq {ps qs : List (List Char)} (h : Trims ps qs) :
    stepsOf qs = stepsOf ps := by
  induction h with
  | nil => rfl
  | keep piece _ ih => rw [stepsOf_cons, stepsOf_cons, ih]
  | drop hidle _ ih => rw [stepsOf_cons, if_pos hidle, List.nil_append, ih]

theorem stepsOf_of_dropSteps : ∀ {steps : List Component} {ps rest : List (List Char)},
    dropSteps steps ps = some rest → stepsOf ps = steps ++ stepsOf rest
  | [], ps, rest, h => by
    rw [dropSteps] at h
    cases h
    rfl
  | _ :: _, [], _, h => by cases h
  | step :: steps, piece :: ps, rest, h => by
    rw [dropSteps] at h
    rw [stepsOf_cons]
    split at h
    · rename_i hidle
      rw [if_pos hidle, List.nil_append]
      exact stepsOf_of_dropSteps h
    · rename_i hbusy
      split at h
      · rename_i hstep
        rw [if_neg hbusy, hstep, stepsOf_of_dropSteps h]
        rfl
      · cases h

end Path

/-! ## Project paths -/

namespace ProjectPath

open Conformance.Path (Lead dropIdleEnd isIdle stepsOf)

theorem dropDotSlash_of_ne {cs : List Char} (h : ∀ rest, cs ≠ '.' :: '/' :: rest) :
    dropDotSlash cs = cs := by
  unfold dropDotSlash
  split
  · rename_i rest
    exact absurd rfl (h rest)
  · rfl

theorem ofChars_of_ne {cs : List Char} (hslash : '\\' ∉ cs) (hne : cs ≠ [])
    (hdot : ∀ rest, cs ≠ '.' :: '/' :: rest) : ofChars cs = ⟨cs⟩ := by
  unfold ofChars
  rw [BuildInfo.forwardSlashes_of_not_mem hslash, dropDotSlash_of_ne hdot]
  cases cs with
  | nil => exact absurd rfl hne
  | cons c cs => rfl

theorem ofChars_of_lead {p : Path} (hslash : '\\' ∉ p.chars) (hlead : p.lead ≠ .dot)
    (hne : p.chars ≠ []) : ofChars p.chars = ⟨p.chars⟩ := by
  refine ofChars_of_ne hslash hne fun rest hchars => hlead ?_
  simp [Path.lead, Path.leadAndPieces, hchars, splitOn]

theorem stepsOf_ofChars {shown : List (List Char)}
    (hfirst : shown ≠ [] → ∃ first more, shown = first :: more ∧ isIdle first = false)
    (hwhole : ∀ piece ∈ shown, '/' ∉ piece) (hslash : '\\' ∉ joinWith '/' shown) :
    (ofChars (joinWith '/' shown)).toPath.isAbsolute = false ∧
      stepsOf (splitOn '/' (ofChars (joinWith '/' shown)).chars) = stepsOf shown := by
  by_cases hnil : shown = []
  · subst hnil
    decide
  · obtain ⟨first, more, hcons, hbusy⟩ := hfirst hnil
    have hbare : Lead.bare ≠ .dot := by decide
    have hlp : Path.leadAndPieces ⟨joinWith '/' shown⟩ = (.bare, shown) :=
      Path.leadAndPieces_ofPieces hbare (hfirst hnil) hwhole
    have hlead : Path.lead ⟨joinWith '/' shown⟩ = .bare := congrArg Prod.fst hlp
    have hpieces : Path.pieces ⟨joinWith '/' shown⟩ = first :: more :=
      (congrArg Prod.snd hlp).trans hcons
    have hshown : ofChars (joinWith '/' shown) = ⟨joinWith '/' shown⟩ :=
      ofChars_of_lead hslash (hlead ▸ hbare) (Path.chars_ne_nil_of_pieces hpieces hbusy)
    rw [hshown]
    refine ⟨?_, congrArg stepsOf (Text.splitOn_joinWith hnil hwhole)⟩
    rw [toPath, Path.isAbsolute, hlead]
    rfl

/-- **A path that is shown from a directory takes the steps of the directory and then those that
are shown**, or is shown as a whole. -/
theorem components_join_relativeTo {dir p : Path} (hdir : dir.isAbsolute = true)
    (hp : p.isAbsolute = true) (hslash : '\\' ∉ p.chars) :
    (dir.join (relativeTo dir p).toPath).components = p.components := by
  have hroot : p.lead = .root := Path.lead_eq_root hp
  have hsome : dir.components ≠ [] := by
    rw [Path.components, Path.lead_eq_root hdir]
    exact List.cons_ne_nil _ _
  have hstrip : p.strip? dir = (Path.dropSteps (stepsOf dir.pieces) p.pieces).map
      fun rest => ⟨joinWith '/' (dropIdleEnd (rest.dropWhile isIdle))⟩ := by
    rw [Path.strip?, if_neg hsome, hroot, Path.lead_eq_root hdir, if_pos rfl]
  rw [relativeTo]
  cases hdrop : Path.dropSteps (stepsOf dir.pieces) p.pieces with
  | none =>
    obtain ⟨chars, hchars⟩ := (Path.isAbsolute_iff p).1 hp
    have hwhole : ofChars p.chars = ⟨p.chars⟩ :=
      ofChars_of_lead hslash (by simp [hroot]) (by simp [hchars])
    rw [hstrip, hdrop, Option.map_none, Option.getD_none, hwhole]
    exact congrArg Path.components (Path.join_of_isAbsolute dir hp)
  | some rest =>
    rw [hdrop, Option.map_some] at hstrip
    have htrims : Path.Trims rest (dropIdleEnd (rest.dropWhile isIdle)) :=
      (Path.trims_dropWhile rest).trans (Path.trims_dropIdleEnd _)
    have hsub := htrims.sublist.trans (Path.dropSteps_suffix hdrop).sublist
    obtain ⟨hrelative, hsteps⟩ := stepsOf_ofChars Path.exists_busy_of_dropWhile
      (fun piece hpiece => Path.slash_not_mem_pieces (hsub.subset hpiece))
      (fun hmem => hslash ((Path.strip?_sublist hstrip).subset hmem))
    rw [hstrip, Option.getD_some, Path.components_join hdir hrelative, toPath, hsteps,
      htrims.stepsOf_eq, Path.components, Path.components, Path.lead_eq_root hdir, hroot,
      Path.stepsOf_of_dropSteps hdrop, List.append_assoc]

/-- **A path that is shown from a directory leads back from there.** -/
theorem normalize_join_relativeTo {dir p : Path} (hdir : dir.isAbsolute = true)
    (hp : p.isAbsolute = true) (hslash : '\\' ∉ p.chars) :
    (dir.join (relativeTo dir p).toPath).normalize = p.normalize := by
  rw [Path.normalize, Path.normalize, Path.isAbsolute_join hdir, hp,
    components_join_relativeTo hdir hp hslash]

theorem backslash_not_mem_forwardSlashes (cs : List Char) : '\\' ∉ forwardSlashes cs := by
  intro h
  obtain ⟨c, -, hc⟩ := List.mem_map.1 h
  split at hc
  · cases hc
  · contradiction

theorem dropDotSlash_suffix (cs : List Char) : dropDotSlash cs <:+ cs := by
  fun_induction dropDotSlash cs with
  | case1 rest ih => exact (ih.trans (List.suffix_cons _ _)).trans (List.suffix_cons _ _)
  | case2 cs _ => exact List.suffix_refl cs

theorem backslash_not_mem_ofChars (cs : List Char) : '\\' ∉ (ofChars cs).chars := by
  unfold ofChars
  split
  · decide
  · intro h
    exact backslash_not_mem_forwardSlashes cs ((dropDotSlash_suffix _).subset h)

end ProjectPath

/-! ## The places of diagnostics

Every place that a diagnostic names is a project path, whoever found it. -/

/-- The place of a diagnostic, if it has one, is named without backslashes. -/
def Diagnostic.IsPlain (x : Diagnostic) : Prop := ∀ l, x.location = some l → '\\' ∉ l.path.chars

theorem Diagnostic.isPlain_of_none {x : Diagnostic} (h : x.location = none) : x.IsPlain := by
  intro l hl
  rw [h] at hl
  cases hl

namespace ExemptionFile

variable {file : ProjectPath} {text : List Char}

theorem path_of_keyDiagnostic {key message : String} {l : Location}
    (h : (keyDiagnostic file text key message).location = some l) : l.path = file := by
  unfold keyDiagnostic at h
  split at h
  · cases h
    rfl
  · cases h

theorem path_of_mem_addRule : ∀ {members : List (String × Json)} {p : ParsedExemptions},
    (∀ x ∈ p.diagnostics, ∀ l, x.location = some l → l.path = file) →
      ∀ x ∈ (members.foldl (addRule file text) p).diagnostics, ∀ l, x.location = some l →
        l.path = file
  | [], _, h => h
  | m :: members, p, h => by
    rw [List.foldl_cons]
    refine path_of_mem_addRule fun x hx l hl => ?_
    unfold addRule at hx
    split at hx
    · exact h x hx l hl
    · rcases List.mem_append.1 hx with hx | hx
      · exact h x hx l hl
      · cases List.mem_singleton.1 hx
        exact path_of_keyDiagnostic hl

theorem path_of_mem_parse {text : String} {x : Diagnostic} (h : x ∈ (parse file text).diagnostics)
    {l : Location} (hl : x.location = some l) : l.path = file := by
  dsimp only [parse] at h
  split at h
  · cases List.mem_singleton.1 h
    cases hl
    rfl
  · exact path_of_mem_addRule (fun y hy => by cases hy) x h l hl

end ExemptionFile

namespace Project

theorem isPlain_of_mem_exemptions {d : Disk} {p : Project} {x : Diagnostic}
    (h : x ∈ (p.exemptions d).diagnostics) : x.IsPlain := by
  unfold exemptions at h
  split at h
  · cases h
  · dsimp only at h
    split at h
    · intro l hl
      rw [ExemptionFile.path_of_mem_parse h hl]
      exact ProjectPath.backslash_not_mem_ofChars _
    · cases List.mem_singleton.1 h
      exact Diagnostic.isPlain_of_none rfl

theorem isPlain_of_mem_preEmit {d : Disk} {dir : Path} {roots : List Path}
    {known : List Diagnostic} (hknown : (loadProgram d dir roots).preEmit = .ok known)
    {x : Diagnostic} (h : x ∈ known) : x.IsPlain := by
  rcases Program.exists_of_mem_preEmit hknown h with h | ⟨file, -, m, -, htold⟩
  · rw [loadProgram_eq] at h
    obtain ⟨root, -, hfailure⟩ := List.mem_filterMap.1 h
    refine Diagnostic.isPlain_of_none ?_
    unfold loadFailure? loadFile at hfailure
    dsimp only at hfailure
    split at hfailure
    · cases hfailure
    · rename_i hload
      cases hfailure
      split at hload
      · cases hload
        rfl
      · split at hload
        · cases hload
          rfl
        · cases hload
  · intro l hl
    rw [htold.path l hl]
    exact ProjectPath.backslash_not_mem_ofChars _

theorem isPlain_of_mem_emit {d : Disk} {p : Project} {program : Program} {forbidden : Bool}
    {x : Diagnostic} (h : x ∈ (p.emit d program forbidden).1.diagnostics) : x.IsPlain := by
  unfold emit at h
  split at h
  · cases h
  · rw [emitFiles_eq] at h
    obtain ⟨a, -, hfailure⟩ := List.mem_filterMap.1 h
    unfold failure? at hfailure
    split at hfailure
    · cases hfailure
    · cases hfailure
      exact Diagnostic.isPlain_of_none rfl

/-- **All that a check has to say is said of project paths.** -/
theorem isPlain_of_check {d : Disk} {p : Project} {disk : Disk} {ds : List Diagnostic}
    (h : p.check d (loadProgram disk p.dir (p.roots disk)) = .ok ds) : ∀ x ∈ ds, x.IsPlain := by
  intro x hx
  dsimp only [check] at h
  split at h
  · rename_i found hfound
    cases h
    rcases List.mem_append.1 hx with hx | hx
    · exact isPlain_of_mem_exemptions hx
    · obtain ⟨-, known, more, hknown, hmore, rfl⟩ :=
        (runRules_eq_ok (nodup_of_runRules hfound)).1 hfound
      rcases List.mem_append.1 hx with hx | hx
      · exact isPlain_of_mem_preEmit hknown hx
      · obtain ⟨-, file, -, l, hl, hpath⟩ := mem_passFound hmore x hx
        intro l' hl'
        cases hl.symm.trans hl'
        rw [hpath]
        exact ProjectPath.backslash_not_mem_ofChars _
  · cases h
    rcases List.mem_append.1 hx with hx | hx
    · exact isPlain_of_mem_exemptions hx
    · cases List.mem_singleton.1 hx
      exact Diagnostic.isPlain_of_none rfl
  · cases h

end Project

end Conformance
