import Conformance.Proofs.Solution.Order
import Conformance.Proofs.Solution.Turn
import Mathlib.Data.List.Forall2
/-!
# How failure spreads through a build

A project is skipped when a project that it needs has failed or was skipped.  At its turn that is
asked by key, and the keys are worked out anew on a disk that the build has added to since the order
was found.  They come out the same: a reference to a directory stays one, and a reference that is no
directory has the text of a file as its key, which no turn makes a directory (`keyOf_of_grows`).

So what became of the projects is settled by what the references were at the start: those with
trouble below them are skipped, and all that a good project needs is good.
-/
namespace Conformance

open Disk (Grows)

/-! ## Keys on a growing disk -/

theorem Disk.Grows.isDir {d d' : Disk} (h : Grows d d') {p : Path} (hp : d.isDir p = true) :
    d'.isDir p = true := by
  obtain ⟨place, hres⟩ := Disk.isDir_iff.1 hp
  obtain ⟨e, hres', hkind⟩ := h.resolve hres
  rw [hkind.2 rfl] at hres'
  exact Disk.isDir_iff.2 ⟨place, hres'⟩

namespace Solution

theorem keyOf_of_grows {d d' : Disk} (h : Grows d d') {r : Path} (hr : r.isAbsolute = true)
    (hload : Loads d (keyOf d r)) : keyOf d' r = keyOf d r := by
  unfold keyOf Project.locate at hload ⊢
  cases hdir : d.isDir r with
  | true => rw [h.isDir hdir]
  | false =>
    -- the key is the text of a file, which the reference would lead to if it led anywhere
    have hdir' : d'.isDir r = false := by
      by_contra hd'
      obtain ⟨place, hres'⟩ := Disk.isDir_iff.1 (by simpa using hd')
      obtain ⟨hplace, hfind'⟩ := Disk.place_of_isAbsolute hr hres'
      rw [hdir] at hload
      obtain ⟨p, hp⟩ := hload
      obtain ⟨text, -, htext, -, -⟩ := load_eq_ok.1 hp
      obtain ⟨_, bytes, hres, -⟩ := Disk.readText_eq_ok.1 htext
      obtain ⟨-, rfl⟩ := Disk.place_of_isCanonical (Path.isCanonical_resolvedNames hr) hres
      obtain ⟨bytes', hfile⟩ := h.files _ bytes (Disk.find?_of_resolve hres)
      rw [hplace, hfile] at hfind'
      cases hfind'
    rw [hdir']

theorem IsOrder.key {d : Disk} {root : Path} {ps : List Project} (h : IsOrder d root ps)
    (hroot : ∃ names, root.IsCanonical names) {p : Project} (hp : p ∈ ps) :
    p.configPath = some p.key ∧ Project.load d p.key = .ok p ∧
      ∃ names, p.key.IsCanonical names := by
  obtain ⟨key, hpath, hload⟩ := h.loaded p hp
  have hreach := (h.whole key).1 (List.mem_map.2 ⟨p, hp, hpath⟩)
  obtain ⟨names, hnames⟩ := isCanonical_of_reaches hroot hreach
  have hkey : p.key = key := by
    rw [Project.key, hpath, Option.map_some, hnames.normalize]
    rfl
  rw [hkey]
  exact ⟨hpath, hload, names, hnames⟩

end Solution

/-! ## Outcomes of turns -/

theorem Diagnostic.ne_nil_of_anyError {ds : List Diagnostic} (h : anyError ds = true) : ds ≠ [] := by
  rintro rfl
  cases h

namespace Turn

variable {σ ε : Type}

/-- What the outcome of a turn tells about the turn. -/
structure Tells (t : Turn σ) (o : ProjectOutcome) : Prop where
  key : o.key = t.project.key
  skipped : o.status = .skipped ↔ t.isBlocked = true
  built : o.status = .built ↔ t.isChecked = true
  diagnosed : o.diagnostics ≠ [] ↔ o.status = .failed

theorem tells_of_result {hook : Hook σ ε} {t : Turn σ} {o : ProjectOutcome}
    (h : (t.result hook).1 = .ok o) : t.Tells o := by
  have hends := t.result_ends hook
  generalize t.result hook = r at h hends
  cases hends with
  | skipped hblocked =>
    cases h
    exact ⟨rfl, by simp [Project.outcome, hblocked],
      by simp [Project.outcome, isChecked, passes, hblocked], by simp [Project.outcome]⟩
  | upToDate hblocked hupToDate =>
    cases h
    exact ⟨rfl, by simp [Project.outcome, hblocked],
      by simp [Project.outcome, isChecked, hupToDate], by simp [Project.outcome]⟩
  | overflowing _ _ _ => cases h
  | faulty hblocked _ hknown herror =>
    cases h
    exact ⟨rfl, by simp [Project.outcome, hblocked],
      by simp [Project.outcome, isChecked, passes, loads_of_anyError hknown herror],
      by simp [Project.outcome, Diagnostic.ne_nil_of_anyError herror]⟩
  | unwritten hblocked _ _ hemit =>
    cases h
    exact ⟨rfl, by simp [Project.outcome, hblocked],
      by simp [Project.outcome, isChecked, passes, hemit],
      by simpa [Project.outcome] using hemit⟩
  | refused _ _ => cases h
  | unrecorded _ _ _ => cases h
  | built hchecked _ _ =>
    cases h
    have hblocked := (isChecked_iff.1 hchecked).2.1
    exact ⟨rfl, by simp [Project.outcome, hblocked], by simp [Project.outcome, hchecked],
      by simp [Project.outcome]⟩

end Turn

namespace Solution

variable {σ ε : Type}

theorem turns_done (hook : Hook σ ε) : ∀ (ps : List Project) (done : List ProjectOutcome)
    (d : Disk) (gathered : σ) (before : List (Turn σ)) (t : Turn σ) (after : List (Turn σ)),
    turns hook done d gathered ps = before ++ t :: after →
      t.done.map some = done.map some ++ before.map fun t => (t.result hook).1.toOption
  | [], _, _, _, before, t, after, h => by cases before <;> cases h
  | p :: ps, done, d, gathered, before, t, after, h => by
    rw [turns] at h
    cases before with
    | nil =>
      obtain ⟨rfl, -⟩ := List.cons.inj h
      simp
    | cons first before =>
      obtain ⟨rfl, hrest⟩ := List.cons.inj h
      split at hrest
      · cases before <;> cases hrest
      · rename_i outcome d' gathered' hresult
        rw [turns_done hook ps _ d' gathered' before t after hrest, List.map_cons, hresult]
        simp [Except.toOption]

theorem mem_badKeys {done : List ProjectOutcome} {key : Path} :
    key ∈ badKeys done ↔ ∃ o ∈ done, o.status.isBad = true ∧ o.key = key := by
  unfold badKeys
  simp [List.mem_map, List.mem_filter, and_assoc]

theorem isBad_iff {status : ProjectStatus} :
    status.isBad = true ↔ status = .failed ∨ status = .skipped := by
  cases status <;> simp [ProjectStatus.isBad]

theorem isBad_eq_false {status : ProjectStatus} :
    status.isBad = false ↔ status = .built ∨ status = .upToDate := by
  cases status <;> simp [ProjectStatus.isBad]

theorem mem_references_iff_needs {d : Disk} {key key' : Path} {p : Project}
    (hload : Project.load d key = .ok p) :
    Needs d key key' ↔ ∃ r ∈ p.references, keyOf d r = key' := by
  constructor
  · rintro ⟨q, hq, hmem⟩
    cases hq.symm.trans hload
    exact List.mem_map.1 hmem
  · exact fun hmem => ⟨p, hload, List.mem_map.2 hmem⟩

/-- A build that came to its end, taken apart: the order, the turns and the outcomes they had. -/
structure Ended (hook : Hook σ ε) (d : Disk) (gathered : σ) (root : Path) (ps : List Project)
    (outcomes : List ProjectOutcome) : Prop where
  canonical : ∃ names, root.IsCanonical names
  order : IsOrder d root ps
  projects : (turns hook [] d gathered ps).map (·.project) = ps
  outcomes : outcomes.map some =
    (turns hook [] d gathered ps).map fun t => (t.result hook).1.toOption

theorem map_filter_of_forall₂ {α β γ : Type} {p : α → Bool} {q : β → Bool} {f : α → γ}
    {g : β → γ} {xs : List α} {ys : List β}
    (h : List.Forall₂ (fun x y => p x = q y ∧ f x = g y) xs ys) :
    (xs.filter p).map f = (ys.filter q).map g := by
  induction h with
  | nil => rfl
  | cons hxy _ ih => grind

namespace Ended

variable {hook : Hook σ ε} {d : Disk} {gathered : σ} {root : Path} {ps : List Project}
  {outcomes : List ProjectOutcome}

theorem reports (h : Ended hook d gathered root ps outcomes) :
    List.Forall₂ (fun t o => t.project ∈ ps ∧ t.Tells o) (turns hook [] d gathered ps)
      outcomes := by
  have hresults : List.Forall₂ (fun (t : Turn σ) o => (t.result hook).1.toOption = some o)
      (turns hook [] d gathered ps) outcomes := by
    have heq := h.outcomes.symm
    rw [← List.forall₂_eq_eq_eq, List.forall₂_map_left_iff, List.forall₂_map_right_iff] at heq
    exact heq
  refine (List.forall₂_and_left _ _).2 ⟨fun t ht => ?_, hresults.imp fun t o ho => ?_⟩
  · rw [← h.projects]
    exact List.mem_map.2 ⟨t, ht, rfl⟩
  · exact Turn.tells_of_result (eq_ok_of_toOption ho)

theorem keys (h : Ended hook d gathered root ps outcomes) :
    outcomes.map (fun o => some o.key) = ps.map (·.configPath) := by
  have hkeys : List.Forall₂ (fun (t : Turn σ) (o : ProjectOutcome) =>
      t.project.configPath = some o.key) (turns hook [] d gathered ps) outcomes :=
    h.reports.imp fun t o ⟨hmem, htells⟩ => by
      rw [htells.key]
      exact (h.order.key h.canonical hmem).1
  rw [← h.projects, List.map_map, eq_comm, ← List.forall₂_eq_eq_eq, List.forall₂_map_left_iff,
    List.forall₂_map_right_iff]
  exact hkeys

theorem eq_of_key (h : Ended hook d gathered root ps outcomes) {o o' : ProjectOutcome}
    (ho : o ∈ outcomes) (ho' : o' ∈ outcomes) (hkey : o.key = o'.key) : o = o' := by
  have honce := h.order.once
  rw [← h.keys] at honce
  exact List.inj_on_of_nodup_map honce ho ho' (by rw [hkey])

theorem turn (h : Ended hook d gathered root ps outcomes) {o : ProjectOutcome}
    (ho : o ∈ outcomes) : ∃ before t after rest,
      turns hook [] d gathered ps = before ++ t :: after ∧ outcomes = t.done ++ o :: rest ∧
      t.project ∈ ps ∧ t.Tells o := by
  obtain ⟨front, rest, rfl⟩ := List.append_of_mem ho
  have heq := h.outcomes.symm
  rw [List.map_append, List.map_cons, List.map_eq_append_iff] at heq
  obtain ⟨before, later, hsplit, hbefore, hlater⟩ := heq
  obtain ⟨t, after, rfl, ht, -⟩ := List.map_eq_cons_iff.1 hlater
  have hdone := turns_done hook ps [] d gathered before t after hsplit
  rw [List.map_nil, List.nil_append, hbefore] at hdone
  have hfront := (List.map_inj_right fun _ _ => Option.some.inj).1 hdone
  refine ⟨before, t, after, rest, hsplit, by rw [hfront], ?_,
    Turn.tells_of_result (eq_ok_of_toOption ht)⟩
  rw [← h.projects, hsplit]
  exact List.mem_map.2 ⟨t, List.mem_append_right _ List.mem_cons_self, rfl⟩

theorem projects_split (h : Ended hook d gathered root ps outcomes) {before after : List (Turn σ)}
    {t : Turn σ} (hsplit : turns hook [] d gathered ps = before ++ t :: after) :
    ps = before.map (·.project) ++ t.project :: after.map (·.project) := by
  rw [← h.projects, hsplit, List.map_append, List.map_cons]

theorem turn_of_reference (h : Ended hook d gathered root ps outcomes)
    {before after : List (Turn σ)} {t : Turn σ}
    (hsplit : turns hook [] d gathered ps = before ++ t :: after) {r : Path}
    (hr : r ∈ t.project.references) : ∃ t' ∈ before, t'.project.key = keyOf d r ∧
      Project.load d (keyOf d r) = .ok t'.project := by
  have hps := h.projects_split hsplit
  obtain ⟨p, hp, hpath⟩ := List.mem_map.1 (h.order.behind _ _ _ hps r hr)
  have hmem : p ∈ ps := by
    rw [hps]
    exact List.mem_append_left _ hp
  obtain ⟨hkey, hload, -⟩ := h.order.key h.canonical hmem
  have hsame : p.key = keyOf d r := Option.some.inj (hkey.symm.trans hpath)
  obtain ⟨t', ht', rfl⟩ := List.mem_map.1 hp
  rw [hsame] at hload
  exact ⟨t', ht', hsame, hload⟩

theorem mem_done_of_needs (h : Ended hook d gathered root ps outcomes)
    {before after : List (Turn σ)} {t : Turn σ}
    (hsplit : turns hook [] d gathered ps = before ++ t :: after) (hmem : t.project ∈ ps)
    {o' : ProjectOutcome} (ho' : o' ∈ outcomes) (hneeds : Needs d t.project.key o'.key)
    (hsub : t.done ⊆ outcomes) : o' ∈ t.done := by
  have hload := (h.order.key h.canonical hmem).2.1
  obtain ⟨r, hr, hkey⟩ := (mem_references_iff_needs hload).1 hneeds
  obtain ⟨t', ht', hsame, -⟩ := h.turn_of_reference hsplit hr
  have hresult : (t'.result hook).1.toOption ∈ t.done.map some := by
    rw [turns_done hook ps [] d gathered before t after hsplit]
    exact List.mem_map.2 ⟨t', ht', rfl⟩
  obtain ⟨o, ho, hresult⟩ := List.mem_map.1 hresult
  have htells := Turn.tells_of_result (eq_ok_of_toOption hresult.symm)
  have hkeys : o'.key = o.key := by rw [htells.key, hsame, hkey]
  rw [h.eq_of_key ho' (hsub ho) hkeys]
  exact ho

/-- **A project is blocked by what it needed at the start.** The keys of its references have not
changed since. -/
theorem isBlocked_iff (h : Ended hook d gathered root ps outcomes) {before after : List (Turn σ)}
    {t : Turn σ} (hsplit : turns hook [] d gathered ps = before ++ t :: after)
    (hmem : t.project ∈ ps) : t.isBlocked = true ↔
      ∃ o ∈ t.done, Needs d t.project.key o.key ∧ o.status.isBad = true := by
  obtain ⟨-, hload, names, hnames⟩ := h.order.key h.canonical hmem
  have hgrows := (wrote_turns hook ps [] d gathered before t after hsplit).1.grows
  have hkeys : ∀ r ∈ t.project.references, keyOf t.disk r = keyOf d r := by
    intro r hr
    obtain ⟨t', -, -, hloads⟩ := h.turn_of_reference hsplit hr
    exact keyOf_of_grows hgrows (isAbsolute_of_mem_references hnames hload hr) ⟨_, hloads⟩
  rw [Turn.isBlocked, Solution.isBlocked, List.any_eq_true]
  constructor
  · rintro ⟨r, hr, hbad⟩
    rw [hkeys r hr] at hbad
    obtain ⟨o, ho, hstatus, hkey⟩ := mem_badKeys.1 (by simpa using hbad)
    exact ⟨o, ho, (mem_references_iff_needs hload).2 ⟨r, hr, hkey.symm⟩, hstatus⟩
  · rintro ⟨o, ho, hneeds, hstatus⟩
    obtain ⟨r, hr, hkey⟩ := (mem_references_iff_needs hload).1 hneeds
    refine ⟨r, hr, ?_⟩
    rw [hkeys r hr]
    simpa using mem_badKeys.2 ⟨o, ho, hstatus, hkey.symm⟩

theorem skipped_iff (h : Ended hook d gathered root ps outcomes) {o : ProjectOutcome}
    (ho : o ∈ outcomes) : o.status = .skipped ↔
      ∃ o' ∈ outcomes, Needs d o.key o'.key ∧ o'.status.isBad = true := by
  obtain ⟨before, t, after, rest, hsplit, hfront, hmem, htells⟩ := h.turn ho
  have hsub : t.done ⊆ outcomes := by
    rw [hfront]
    exact List.subset_append_left _ _
  rw [htells.skipped, h.isBlocked_iff hsplit hmem, htells.key]
  constructor
  · rintro ⟨o', ho', hneeds⟩
    exact ⟨o', hsub ho', hneeds⟩
  · rintro ⟨o', ho', hneeds, hstatus⟩
    exact ⟨o', h.mem_done_of_needs hsplit hmem ho' hneeds hsub, hneeds, hstatus⟩

/-- **All that a good project needs is good**, by way of any number of others. -/
theorem good_of_reaches (h : Ended hook d gathered root ps outcomes) {o : ProjectOutcome}
    (ho : o ∈ outcomes) (hgood : o.status.isBad = false) {key : Path}
    (hreach : Reaches d o.key key) :
    ∃ o' ∈ outcomes, o'.key = key ∧ o'.status.isBad = false := by
  induction hreach with
  | refl => exact ⟨o, ho, rfl, hgood⟩
  | @tail mid key _ hneeds ih =>
    obtain ⟨o', ho', rfl, hgood'⟩ := ih
    -- what a project of the solution needs is a project of the solution
    have hkey : some key ∈ outcomes.map fun o => some o.key := by
      have hmid : some o'.key ∈ outcomes.map fun o => some o.key := List.mem_map.2 ⟨o', ho', rfl⟩
      rw [h.keys, h.order.whole] at hmid ⊢
      exact hmid.tail hneeds
    obtain ⟨o'', ho'', hkey⟩ := List.mem_map.1 hkey
    cases hkey
    refine ⟨o'', ho'', rfl, ?_⟩
    by_contra hbad
    have hskipped := (h.skipped_iff ho').2 ⟨o'', ho'', hneeds, by simpa using hbad⟩
    rw [hskipped] at hgood'
    cases hgood'

theorem diagnosed_iff (h : Ended hook d gathered root ps outcomes) {o : ProjectOutcome}
    (ho : o ∈ outcomes) : o.diagnostics ≠ [] ↔ o.status = .failed := by
  obtain ⟨_, _, _, _, -, -, -, htells⟩ := h.turn ho
  exact htells.diagnosed

theorem calls (h : Ended hook d gathered root ps outcomes) :
    ((turns hook [] d gathered ps).filter (·.isChecked)).map (fun t => .ok t.call.project) =
      (outcomes.filter (·.status = .built)).map fun o => Project.load d o.key := by
  refine map_filter_of_forall₂ (h.reports.imp fun t o ⟨hmem, htells⟩ => ⟨?_, ?_⟩)
  · rw [Bool.eq_iff_iff, ← htells.built, decide_eq_true_iff]
  · rw [htells.key]
    exact (h.order.key h.canonical hmem).2.1.symm

end Ended

theorem ended_of_build {hook : Hook σ ε} {d d' : Disk} {gathered gathered' : σ} {root : Path}
    {outcomes : List ProjectOutcome} (hroot : ∃ names, root.IsCanonical names)
    (h : build hook d gathered root = (.ok outcomes, d', gathered')) :
    ∃ ps, projects d root = .ok ps ∧ Ended hook d gathered root ps outcomes := by
  unfold build at h
  cases hps : projects d root with
  | error e =>
    rw [hps] at h
    cases h
  | ok ps =>
    rw [hps] at h
    obtain ⟨hprojects, houtcomes⟩ := buildAll_ok hook h
    exact ⟨ps, rfl, hroot, isOrder_of_projects hps, hprojects, by simpa using houtcomes⟩

theorem build_recording {hook : Hook σ ε} {d d' : Disk} {gathered gathered' : σ} {root : Path}
    {ps : List Project} {outcomes : List ProjectOutcome} (hps : projects d root = .ok ps)
    (h : build hook d gathered root = (.ok outcomes, d', gathered')) :
    build hook.recording d (gathered, []) root = (.ok outcomes, d', gathered',
      ((turns hook [] d gathered ps).filter (·.isChecked)).map (·.call)) := by
  unfold build at h ⊢
  rw [hps] at h ⊢
  dsimp only at h ⊢
  rw [buildAll_recording, h]
  rfl

/-! ## The build of a solution -/

/-- Failure goes along the references and nowhere else: a project is skipped exactly when one that
it names is failed or skipped, so all below a good project is good; the build has failed when there
is such a project; and those that failed, and no others, have diagnostics. -/
structure Spreads (d : Disk) (root : Path) (outcomes : List ProjectOutcome) : Prop where
  inOrder : ∃ ps, IsOrder d root ps ∧
    outcomes.map (fun o => some o.key) = ps.map (·.configPath)
  skipped : ∀ o ∈ outcomes, o.status = .skipped ↔
    ∃ o' ∈ outcomes, Needs d o.key o'.key ∧ (o'.status = .failed ∨ o'.status = .skipped)
  good : ∀ o ∈ outcomes, o.status = .built ∨ o.status = .upToDate →
    ∀ key, Reaches d o.key key →
      ∃ o' ∈ outcomes, o'.key = key ∧ (o'.status = .built ∨ o'.status = .upToDate)
  failed : hasFailed outcomes = true ↔
    ∃ o ∈ outcomes, o.status = .failed ∨ o.status = .skipped
  diagnosed : ∀ o ∈ outcomes, o.diagnostics ≠ [] ↔ o.status = .failed

theorem Ended.spreads {hook : Hook σ ε} {d : Disk} {gathered : σ} {root : Path}
    {ps : List Project} {outcomes : List ProjectOutcome}
    (h : Ended hook d gathered root ps outcomes) : Spreads d root outcomes where
  inOrder := ⟨ps, h.order, h.keys⟩
  skipped := fun o ho => by
    simp only [← isBad_iff]
    exact h.skipped_iff ho
  good := fun o ho hgood key hreach => by
    simp only [← isBad_eq_false] at hgood ⊢
    exact h.good_of_reaches ho hgood hreach
  failed := by
    simp only [← isBad_iff]
    exact List.any_eq_true
  diagnosed := fun o ho => h.diagnosed_iff ho

/-- **Failure spreads along the references, and the hook sees what was built.** The key of the root
may have been found on another disk than that of the build. That the calls are recorded changes
nothing else. -/
theorem build_spreads (hook : Hook σ ε) (found d d' : Disk) (gathered gathered' : σ)
    (project : Path) (outcomes : List ProjectOutcome) (hproject : project.isAbsolute = true)
    (h : build hook d gathered (keyOf found project) = (.ok outcomes, d', gathered')) :
    Spreads d (keyOf found project) outcomes ∧ ∃ calls,
      build hook.recording d (gathered, []) (keyOf found project) =
        (.ok outcomes, d', gathered', calls) ∧
      calls.map (fun c => .ok c.project) =
        (outcomes.filter (·.status = .built)).map fun o => Project.load d o.key := by
  obtain ⟨names, hroot⟩ := isCanonical_keyOf found hproject
  obtain ⟨ps, hps, hended⟩ := ended_of_build ⟨names, hroot⟩ h
  refine ⟨hended.spreads, _, build_recording hps h, ?_⟩
  rw [List.map_map]
  exact hended.calls

/-- A project that needs two others: one that needs a project without its file, and one that is in
order. -/
def broken : Disk where
  entries :=
    [([['s']], .dir), ([['s'], "tsconfig.json".toList],
        .file ("\x7b\"references\":[\x7b\"path\":\"../p\"\x7d,\x7b\"path\":\"../r\"\x7d]," ++
          "\"files\":[]\x7d").toUTF8),
      ([['p']], .dir), ([['p'], "tsconfig.json".toList],
        .file "\x7b\"references\":[\x7b\"path\":\"../q\"\x7d],\"files\":[]\x7d".toUTF8),
      ([['q']], .dir), ([['q'], "tsconfig.json".toList],
        .file "\x7b\"files\":[\"lost.tree.json\"]\x7d".toUTF8),
      ([['r']], .dir), ([['r'], "tsconfig.json".toList], .file "\x7b\"files\":[]\x7d".toUTF8)]
  here := []

def idle : Hook Unit Empty := fun _ _ _ _ => (.ok (), ())

theorem build_spreads_broken : ∃ outcomes d',
    build idle broken () (keyOf broken (.ofString "/s")) = (.ok outcomes, d', ()) ∧
      outcomes.map (fun o => (o.key.text, o.status)) = [("/q/tsconfig.json", .failed),
        ("/p/tsconfig.json", .skipped), ("/r/tsconfig.json", .built),
        ("/s/tsconfig.json", .skipped)] ∧
      Spreads broken (keyOf broken (.ofString "/s")) outcomes ∧ ∃ calls,
        build idle.recording broken ((), []) (keyOf broken (.ofString "/s")) =
          (.ok outcomes, d', (), calls) ∧
        calls.map (fun c => .ok c.project) =
          (outcomes.filter (·.status = .built)).map fun o => Project.load broken o.key := by
  have hstatuses : (build idle broken () (keyOf broken (.ofString "/s"))).1.toOption.map
      (·.map fun o => (o.key.text, o.status)) = some [("/q/tsconfig.json", .failed),
        ("/p/tsconfig.json", .skipped), ("/r/tsconfig.json", .built),
        ("/s/tsconfig.json", .skipped)] := by
    decide +kernel
  rcases hbuild : build idle broken () (keyOf broken (.ofString "/s")) with ⟨r, d', u⟩
  rw [hbuild] at hstatuses
  cases r with
  | error e => cases hstatuses
  | ok outcomes =>
    refine ⟨outcomes, d', rfl, Option.some_inj.1 hstatuses, ?_⟩
    exact build_spreads idle broken broken d' () () (.ofString "/s") outcomes (by decide) hbuild

end Solution

end Conformance
