import Conformance.Proofs.Disk.Follow
import Conformance.Proofs.Gathering
import Conformance.Proofs.Project.Settled
import Conformance.Solution.Order
import Mathlib.Data.List.Nodup
import Mathlib.Data.List.Perm.Subperm
import Mathlib.Logic.Relation
/-!
# The order of a solution

The search for the projects of a solution is a depth-first search of a graph that the disk
describes: a key needs the keys of the references of the project it loads.

Three things are said of a visit.  What is done stays settled: every project stands behind those it
needs, none twice (`Settled`).  The chain of keys that the search is inside of holds no key twice,
and each of its keys leads to a file of its own (`OnChain`), so a chain is never longer than the
disk has entries and the depth that the search is given is never used up.  And a visit that fails
has come to a key that does not load or to a circle.
-/
namespace Conformance

namespace Solution

open Relation (ReflTransGen TransGen)

/-- One key needs another: the project of the one has a reference to the other. -/
def Needs (d : Disk) (key key' : Path) : Prop :=
  ∃ p, Project.load d key = .ok p ∧ key' ∈ p.references.map (keyOf d)

/-- A key is needed by another, by way of any number of others, or is the same. -/
abbrev Reaches (d : Disk) : Path → Path → Prop := ReflTransGen (Needs d)

/-- A key is needed by itself, by way of any number of others. -/
def OnCircle (d : Disk) (key : Path) : Prop := TransGen (Needs d) key key

def Loads (d : Disk) (key : Path) : Prop := ∃ p, Project.load d key = .ok p

/-! ## Keys -/

theorem load_eq_ok {d : Disk} {key : Path} {p : Project} : Project.load d key = .ok p ↔
    ∃ text c, d.readText key = .ok text ∧ ConfigFile.parse text = .ok c ∧
      Project.ofConfig c key = .ok p := by
  unfold Project.load
  constructor
  · intro h
    split at h
    · cases h
    · rename_i text htext
      split at h
      · cases h
      · rename_i c hc
        split at h
        · cases h
        · rename_i q hq
          cases h
          exact ⟨text, c, htext, hc, hq⟩
  · rintro ⟨text, c, htext, hc, hp⟩
    simp only [htext, hc, hp]

theorem configPath_of_load {d : Disk} {key : Path} {p : Project}
    (h : Project.load d key = .ok p) : p.configPath = some key := by
  obtain ⟨-, c, -, -, hp⟩ := load_eq_ok.1 h
  exact (Project.settles_of_ofConfig hp).configPath

theorem isAbsolute_locate (d : Disk) {p : Path} (h : p.isAbsolute = true) :
    (Project.locate d p).isAbsolute = true := by
  unfold Project.locate
  split
  · exact Path.isAbsolute_join h _
  · exact h

theorem isCanonical_keyOf (d : Disk) {p : Path} (h : p.isAbsolute = true) :
    ∃ names, (keyOf d p).IsCanonical names :=
  Path.isCanonical_normalize (isAbsolute_locate d h)

/-- A canonical key that loads is the text of the place of a file. -/
theorem mem_entries_of_load {d : Disk} {key : Path} {names : List (List Char)}
    (hkey : key.IsCanonical names) (h : Loads d key) :
    names ≠ [] ∧ names ∈ d.entries.map (·.1) := by
  obtain ⟨p, hp⟩ := h
  obtain ⟨text, -, htext, -, -⟩ := load_eq_ok.1 hp
  obtain ⟨place, bytes, hres, -⟩ := Disk.readText_eq_ok.1 htext
  obtain ⟨hne, rfl⟩ := Disk.place_of_isCanonical hkey hres
  exact ⟨hne, List.mem_map.2 ⟨_, Disk.mem_entries_of_find? (Disk.find?_of_resolve hres), rfl⟩⟩

theorem isAbsolute_of_mem_references {d : Disk} {key : Path} {names : List (List Char)}
    (hkey : key.IsCanonical names) {p : Project} (hp : Project.load d key = .ok p) {r : Path}
    (hr : r ∈ p.references) : r.isAbsolute = true := by
  obtain ⟨-, c, -, -, hc⟩ := load_eq_ok.1 hp
  rw [(Project.settles_of_ofConfig hc).references, (Project.settles_of_ofConfig hc).dir] at hr
  obtain ⟨text, -, rfl⟩ := List.mem_map.1 hr
  obtain ⟨dir, hdir, habs⟩ := hkey.parent (mem_entries_of_load hkey ⟨p, hp⟩).1
  refine Path.isAbsolute_join ?_ _
  rw [Project.dirOf, hdir]
  exact habs

theorem isCanonical_of_needs {d : Disk} {key key' : Path} {names : List (List Char)}
    (hkey : key.IsCanonical names) (h : Needs d key key') :
    ∃ names', key'.IsCanonical names' := by
  obtain ⟨p, hp, hmem⟩ := h
  obtain ⟨r, hr, rfl⟩ := List.mem_map.1 hmem
  exact isCanonical_keyOf d (isAbsolute_of_mem_references hkey hp hr)

theorem isCanonical_of_reaches {d : Disk} {key key' : Path}
    (hkey : ∃ names, key.IsCanonical names) (h : Reaches d key key') :
    ∃ names, key'.IsCanonical names := by
  induction h with
  | refl => exact hkey
  | tail _ hstep ih =>
    obtain ⟨names, hnames⟩ := ih
    exact isCanonical_of_needs hnames hstep

/-! ## The chain -/

/-- The chain that a search is inside of when it comes to a key: each of its keys loads and needs
the key it has come to. -/
structure OnChain (d : Disk) (chain : List Path) (key : Path) : Prop where
  once : chain.Nodup
  loads : ∀ k ∈ chain, Loads d k ∧ ∃ names, k.IsCanonical names
  needs : ∀ k ∈ chain, TransGen (Needs d) k key
  canonical : ∃ names, key.IsCanonical names

theorem OnChain.nil {d : Disk} {key : Path} (h : ∃ names, key.IsCanonical names) :
    OnChain d [] key :=
  ⟨List.nodup_nil, fun _ hk => (List.not_mem_nil hk).elim,
    fun _ hk => (List.not_mem_nil hk).elim, h⟩

theorem OnChain.snoc {d : Disk} {chain : List Path} {key key' : Path} (h : OnChain d chain key)
    (hfresh : key ∉ chain) (hneeds : Needs d key key') : OnChain d (chain ++ [key]) key' := by
  obtain ⟨names, hnames⟩ := h.canonical
  have hloads : Loads d key := by
    obtain ⟨p, hp, -⟩ := hneeds
    exact ⟨p, hp⟩
  refine ⟨?_, fun k hk => ?_, fun k hk => ?_, isCanonical_of_needs hnames hneeds⟩
  · refine List.nodup_append.2 ⟨h.once, List.nodup_singleton key, fun a ha b hb hab => ?_⟩
    rw [List.mem_singleton.1 hb] at hab
    exact hfresh (hab ▸ ha)
  · rcases List.mem_append.1 hk with hk | hk
    · exact h.loads k hk
    · rw [List.mem_singleton.1 hk]
      exact ⟨hloads, names, hnames⟩
  · rcases List.mem_append.1 hk with hk | hk
    · exact (h.needs k hk).tail hneeds
    · rw [List.mem_singleton.1 hk]
      exact .single hneeds

/-- **A chain is no longer than the disk has entries**: its keys lead to different files. -/
theorem OnChain.length_le {d : Disk} {chain : List Path} {key : Path} (h : OnChain d chain key) :
    chain.length ≤ d.entries.length := by
  have hplace : ∀ k ∈ chain, k = Path.ofPieces .root k.pieces ∧
      k.pieces ∈ d.entries.map (·.1) := by
    intro k hk
    obtain ⟨hloads, names, hnames⟩ := h.loads k hk
    obtain ⟨hne, hmem⟩ := mem_entries_of_load hnames hloads
    rw [hnames.pieces hne]
    exact ⟨hnames.1, hmem⟩
  -- A canonical path is its pieces, so two keys with one place are one key.
  have honce : (chain.map Path.pieces).Nodup := by
    refine List.Nodup.map_on (fun a ha b hb hab => ?_) h.once
    rw [(hplace a ha).1, (hplace b hb).1, hab]
  have hsub : chain.map Path.pieces ⊆ d.entries.map (·.1) := by
    intro place hplace'
    obtain ⟨k, hk, rfl⟩ := List.mem_map.1 hplace'
    exact (hplace k hk).2
  simpa using (honce.subperm hsub).length_le

/-! ## What is done -/

theorem isListed_iff {key : Path} {done : List Project} :
    isListed key done = true ↔ some key ∈ done.map (·.configPath) := by
  rw [isListed, List.any_eq_true, List.mem_map]
  constructor
  · rintro ⟨p, hp, hkey⟩
    exact ⟨p, hp, by simpa using hkey⟩
  · rintro ⟨p, hp, hkey⟩
    exact ⟨p, hp, by simpa using hkey⟩

theorem isListed_append {key : Path} {done new : List Project} :
    isListed key (done ++ new) = true ↔ isListed key done = true ∨ isListed key new = true := by
  rw [isListed, List.any_append, Bool.or_eq_true]
  rfl

theorem isListed_singleton {d : Disk} {key : Path} {p : Project}
    (h : Project.load d key = .ok p) (k : Path) : isListed k [p] = true ↔ k = key := by
  rw [isListed_iff, List.map_singleton, List.mem_singleton, configPath_of_load h, Option.some_inj]

/-- Projects in an order that a solution can be built in, as far as it goes: each is added once,
behind all that it needs. -/
inductive Settled (d : Disk) : List Project → Prop
  | nil : Settled d []
  | snoc {done : List Project} {key : Path} {p : Project} : Settled d done →
      Project.load d key = .ok p → isListed key done = false →
      (∀ k ∈ p.references.map (keyOf d), isListed k done = true) → Settled d (done ++ [p])

theorem Settled.loads {d : Disk} {done : List Project} (h : Settled d done) :
    ∀ p ∈ done, ∃ key, p.configPath = some key ∧ Project.load d key = .ok p := by
  induction h with
  | nil => exact fun p hp => by cases hp
  | snoc _ hload _ _ ih =>
    intro q hq
    rcases List.mem_append.1 hq with hq | hq
    · exact ih q hq
    · rw [List.mem_singleton.1 hq]
      exact ⟨_, configPath_of_load hload, hload⟩

theorem Settled.nodup {d : Disk} {done : List Project} (h : Settled d done) :
    (done.map (·.configPath)).Nodup := by
  induction h with
  | nil => exact List.nodup_nil
  | @snoc done key p _ hload hfresh _ ih =>
    rw [List.map_append, List.map_singleton, configPath_of_load hload]
    refine List.nodup_append.2 ⟨ih, List.nodup_singleton _, fun a ha b hb hab => ?_⟩
    rw [List.mem_singleton.1 hb] at hab
    rw [hab, ← isListed_iff, hfresh] at ha
    cases ha

theorem Settled.behind {d : Disk} {done : List Project} (h : Settled d done) :
    ∀ before p after, done = before ++ p :: after →
      ∀ r ∈ p.references, isListed (keyOf d r) before = true := by
  induction h with
  | nil => exact fun before p after hsplit => by cases before <;> cases hsplit
  | snoc _ _ _ hrefs ih =>
    intro before q after hsplit r hr
    rcases List.eq_nil_or_concat after with rfl | ⟨front, last, rfl⟩
    · obtain ⟨rfl, hq⟩ := List.append_inj' hsplit rfl
      cases hq
      exact hrefs _ (List.mem_map.2 ⟨r, hr, rfl⟩)
    · rw [List.concat_eq_append] at hsplit
      have hsplit' := hsplit.trans (List.append_assoc before (q :: front) [last]).symm
      exact ih before q front (List.append_inj' hsplit' rfl).1 r hr

theorem Settled.closed {d : Disk} {done : List Project} (h : Settled d done) {key key' : Path}
    (hkey : isListed key done = true) (hneeds : Reaches d key key') :
    isListed key' done = true := by
  induction hneeds with
  | refl => exact hkey
  | tail _ hstep ih =>
    obtain ⟨p, hp, hmem⟩ := hstep
    obtain ⟨q, hq, hpath⟩ := List.mem_map.1 (isListed_iff.1 ih)
    obtain ⟨k, hk, hload⟩ := h.loads q hq
    have hk' := Option.some_inj.1 (hk.symm.trans hpath)
    subst hk'
    have hqp : q = p := Except.ok.inj (hload.symm.trans hp)
    subst hqp
    obtain ⟨before, after, rfl⟩ := List.append_of_mem hq
    obtain ⟨r, hr, rfl⟩ := List.mem_map.1 hmem
    exact isListed_append.2 (.inl (h.behind before q after rfl r hr))

/-- **No project that is listed is on a circle.** -/
theorem Settled.not_onCircle {d : Disk} {done : List Project} (h : Settled d done) :
    ∀ key, isListed key done = true → ¬ OnCircle d key := by
  induction h with
  | nil => exact fun key hkey => by cases hkey
  | @snoc done key p hdone hload hfresh hrefs ih =>
    intro k hk hcircle
    rcases isListed_append.1 hk with hk | hk
    · exact ih k hk hcircle
    · -- The circle leaves the new project for one that is listed already, and stays there.
      have hkey := (isListed_singleton hload k).1 hk
      subst hkey
      obtain ⟨k', ⟨q, hq, hmem⟩, hback⟩ := TransGen.head'_iff.1 hcircle
      have hqp : q = p := Except.ok.inj (hq.symm.trans hload)
      subst hqp
      have hlisted := hdone.closed (hrefs k' hmem) hback
      rw [hfresh] at hlisted
      cases hlisted

/-! ## Visits -/

/-- What visits that succeed do to what is done: it stays settled, the keys that were visited are
listed, and what is new is needed by them and is not on the chain. -/
structure Visited (d : Disk) (chain keys : List Path) (done done' : List Project) : Prop where
  settled : Settled d done'
  kept : ∀ k, isListed k done = true → isListed k done' = true
  listed : ∀ k ∈ keys, isListed k done' = true
  fresh : ∀ k, isListed k done' = true →
    isListed k done = true ∨ k ∉ chain ∧ ∃ key ∈ keys, Reaches d key k

theorem Visited.nil {d : Disk} {chain : List Path} {done : List Project} (h : Settled d done) :
    Visited d chain [] done done :=
  ⟨h, fun _ hk => hk, fun _ hk => (List.not_mem_nil hk).elim, fun _ hk => .inl hk⟩

theorem Visited.again {d : Disk} {chain : List Path} {done : List Project} {key : Path}
    (h : Settled d done) (hkey : isListed key done = true) :
    Visited d chain [key] done done := by
  refine ⟨h, fun _ hk => hk, fun k hk => ?_, fun _ hk => .inl hk⟩
  rw [List.mem_singleton.1 hk]
  exact hkey

theorem Visited.adding {d : Disk} {chain : List Path} {done mid : List Project} {key : Path}
    {p : Project} (h : Visited d (chain ++ [key]) (p.references.map (keyOf d)) done mid)
    (hload : Project.load d key = .ok p) (hdone : isListed key done = false)
    (hchain : key ∉ chain) : Visited d chain [key] done (mid ++ [p]) := by
  have hfresh : isListed key mid = false := by
    by_contra hlisted
    rcases h.fresh key (by simpa using hlisted) with hk | ⟨hk, -⟩
    · rw [hdone] at hk
      cases hk
    · exact hk (List.mem_append.2 (.inr List.mem_cons_self))
  refine ⟨h.settled.snoc hload hfresh h.listed, fun k hk => ?_, fun k hk => ?_, fun k hk => ?_⟩
  · exact isListed_append.2 (.inl (h.kept k hk))
  · exact isListed_append.2 (.inr ((isListed_singleton hload k).2 (List.mem_singleton.1 hk)))
  · rcases isListed_append.1 hk with hk | hk
    · rcases h.fresh k hk with hk | ⟨hk, key', hkey', hreach⟩
      · exact .inl hk
      · refine .inr ⟨fun hc => hk (List.mem_append.2 (.inl hc)), key, List.mem_cons_self, ?_⟩
        exact hreach.head ⟨p, hload, hkey'⟩
    · rw [(isListed_singleton hload k).1 hk]
      exact .inr ⟨hchain, key, List.mem_cons_self, .refl⟩

theorem Visited.cons {d : Disk} {chain keys : List Path} {key : Path}
    {done mid done' : List Project} (h : Visited d chain [key] done mid)
    (h' : Visited d chain keys mid done') : Visited d chain (key :: keys) done done' := by
  refine ⟨h'.settled, fun k hk => h'.kept k (h.kept k hk), fun k hk => ?_, fun k hk => ?_⟩
  · rcases List.mem_cons.1 hk with rfl | hk
    · exact h'.kept k (h.listed k List.mem_cons_self)
    · exact h'.listed k hk
  · rcases h'.fresh k hk with hk | ⟨hchain, k', hk', hreach⟩
    · rcases h.fresh k hk with hk | ⟨hchain, k', hk', hreach⟩
      · exact .inl hk
      · rw [List.mem_singleton.1 hk'] at hreach
        exact .inr ⟨hchain, key, List.mem_cons_self, hreach⟩
    · exact .inr ⟨hchain, k', List.mem_cons_of_mem key hk', hreach⟩

theorem visitAll_ok {d : Disk} {chain : List Path}
    {visit : List Project → Path → Except SolutionError (List Project)}
    (hvisit : ∀ done done' k, Settled d done → visit done k = .ok done' →
      Visited d chain [k] done done') :
    ∀ {keys : List Path} {done done' : List Project}, Settled d done →
      visitAll visit done keys = .ok done' → Visited d chain keys done done'
  | [], done, done', hdone, h => by
    cases h
    exact .nil hdone
  | key :: keys, done, done', hdone, h => by
    rw [visitAll] at h
    split at h
    · cases h
    · rename_i mid hmid
      have hfirst := hvisit done mid key hdone hmid
      exact hfirst.cons (visitAll_ok hvisit hfirst.settled h)

theorem visitAll_error {visit : List Project → Path → Except SolutionError (List Project)} :
    ∀ {keys : List Path} {done : List Project} {e : SolutionError},
      visitAll visit done keys = .error e → ∃ k ∈ keys, ∃ mid, visit mid k = .error e
  | [], _, _, h => by cases h
  | key :: keys, done, e, h => by
    rw [visitAll] at h
    split at h
    · rename_i hkey
      cases h
      exact ⟨key, List.mem_cons_self, done, hkey⟩
    · obtain ⟨k, hk, mid, hmid⟩ := visitAll_error h
      exact ⟨k, List.mem_cons_of_mem key hk, mid, hmid⟩

theorem visitAll_congr {visit visit' : List Project → Path → Except SolutionError (List Project)} :
    ∀ {keys : List Path} {done : List Project}, (∀ k ∈ keys, ∀ mid, visit mid k = visit' mid k) →
      visitAll visit done keys = visitAll visit' done keys
  | [], _, _ => rfl
  | key :: keys, done, h => by
    rw [visitAll, visitAll, h key List.mem_cons_self]
    split
    · rfl
    · exact visitAll_congr fun k hk => h k (List.mem_cons_of_mem key hk)

/-- **A visit that succeeds** leaves its key listed behind all that it needs. -/
theorem visit_ok {d : Disk} : ∀ {depth : Nat} {chain : List Path} {done done' : List Project}
    {key : Path}, Settled d done → visit d depth chain done key = .ok done' →
      Visited d chain [key] done done'
  | 0, _, _, _, _, _, h => by cases h
  | depth + 1, chain, done, done', key, hdone, h => by
    rw [visit] at h
    split at h
    · rename_i hlisted
      cases h
      exact .again hdone hlisted
    · rename_i hlisted
      split at h
      · cases h
      · rename_i hchain
        split at h
        · cases h
        · rename_i p hload
          split at h
          · cases h
          · rename_i mid hmid
            cases h
            have hrefs := visitAll_ok (fun _ _ _ hs hv => visit_ok hs hv) hdone hmid
            exact hrefs.adding hload (by simpa using hlisted) hchain

theorem visit_error {d : Disk} : ∀ {depth : Nat} {chain : List Path} {done : List Project}
    {key : Path} {e : SolutionError}, OnChain d chain key →
      d.entries.length < depth + chain.length → visit d depth chain done key = .error e →
      ∃ k, Reaches d key k ∧ (¬ Loads d k ∨ OnCircle d k)
  | 0, chain, _, _, _, hon, hdepth, _ => by
    have hle := hon.length_le
    omega
  | depth + 1, chain, done, key, e, hon, hdepth, h => by
    rw [visit] at h
    split at h
    · cases h
    · split at h
      · rename_i hchain
        exact ⟨key, .refl, .inr (hon.needs key hchain)⟩
      · rename_i hchain
        split at h
        · rename_i hload
          refine ⟨key, .refl, .inl ?_⟩
          rintro ⟨p, hp⟩
          rw [hload] at hp
          cases hp
        · rename_i p hload
          split at h
          · rename_i hrefs
            obtain ⟨k, hk, mid, hmid⟩ := visitAll_error hrefs
            have hneeds : Needs d key k := ⟨p, hload, hk⟩
            obtain ⟨k', hreach, hbad⟩ := visit_error (hon.snoc hchain hneeds)
              (by rw [List.length_append, List.length_singleton]; omega) hmid
            exact ⟨k', hreach.head hneeds, hbad⟩
          · cases h

/-- **The depth that a search is given does not matter** once it is that of the longest chain. -/
theorem visit_deeper {d : Disk} : ∀ {depth more : Nat} {chain : List Path} {done : List Project}
    {key : Path}, OnChain d chain key → d.entries.length < depth + chain.length →
      depth ≤ more → visit d more chain done key = visit d depth chain done key
  | 0, _, chain, _, _, hon, hdepth, _ => by
    have hle := hon.length_le
    omega
  | depth + 1, 0, _, _, _, _, _, hle => by omega
  | depth + 1, more + 1, chain, done, key, hon, hdepth, hle => by
    rw [visit, visit]
    split
    · rfl
    · split
      · rfl
      · rename_i hchain
        split
        · rfl
        · rename_i p hload
          have hrefs : ∀ k ∈ p.references.map (keyOf d), ∀ mid,
              visit d more (chain ++ [key]) mid k = visit d depth (chain ++ [key]) mid k := by
            intro k hk mid
            refine visit_deeper (hon.snoc hchain ⟨p, hload, hk⟩) ?_ (by omega)
            rw [List.length_append, List.length_singleton]
            omega
          rw [visitAll_congr hrefs]

/-! ## The order -/

/-- An order for the solution of a root: it has every project that the root needs, once, behind all
that the project needs, and the root comes last. -/
structure IsOrder (d : Disk) (root : Path) (ps : List Project) : Prop where
  loaded : ∀ p ∈ ps, ∃ key, p.configPath = some key ∧ Project.load d key = .ok p
  once : (ps.map (·.configPath)).Nodup
  whole : ∀ key, some key ∈ ps.map (·.configPath) ↔ Reaches d root key
  behind : ∀ before p after, ps = before ++ p :: after →
    ∀ r ∈ p.references, some (keyOf d r) ∈ before.map (·.configPath)
  last : ∃ before p, ps = before ++ [p] ∧ p.configPath = some root

theorem lt_depthLimit (d : Disk) (chain : List Path) :
    d.entries.length < depthLimit d + chain.length := by
  unfold depthLimit Disk.pathLimit
  omega

theorem visit_nil_last {d : Disk} : ∀ {depth : Nat} {key : Path} {ps : List Project},
    visit d depth [] [] key = .ok ps →
      ∃ before p, ps = before ++ [p] ∧ p.configPath = some key
  | 0, _, _, h => by cases h
  | depth + 1, key, ps, h => by
    rw [visit, if_neg (by simp [isListed]), if_neg List.not_mem_nil] at h
    split at h
    · cases h
    · rename_i p hload
      split at h
      · cases h
      · rename_i before _
        cases h
        exact ⟨before, p, rfl, configPath_of_load hload⟩

theorem isOrder_of_projects {d : Disk} {root : Path} {ps : List Project}
    (h : projects d root = .ok ps) : IsOrder d root ps := by
  have hps := visit_ok .nil h
  refine ⟨hps.settled.loads, hps.settled.nodup, fun key => ?_, ?_, visit_nil_last h⟩
  · rw [← isListed_iff]
    constructor
    · intro hkey
      rcases hps.fresh key hkey with hnil | ⟨-, k, hk, hreach⟩
      · cases hnil
      · rw [List.mem_singleton.1 hk] at hreach
        exact hreach
    · exact hps.settled.closed (hps.listed root List.mem_cons_self)
  · intro before p after hsplit r hr
    exact isListed_iff.1 (hps.settled.behind before p after hsplit r hr)

theorem projects_of_sound {d : Disk} {root : Path} {names : List (List Char)}
    (hroot : root.IsCanonical names)
    (h : ∀ key, Reaches d root key → Loads d key ∧ ¬ OnCircle d key) :
    ∃ ps, projects d root = .ok ps := by
  cases hps : projects d root with
  | ok ps => exact ⟨ps, rfl⟩
  | error e =>
    obtain ⟨k, hreach, hbad⟩ := visit_error (.nil ⟨names, hroot⟩) (lt_depthLimit d []) hps
    rcases hbad with hbad | hbad
    · exact absurd (h k hreach).1 hbad
    · exact absurd hbad (h k hreach).2

/-- **The projects of a solution are a topological order of what its root needs.** There is one
exactly when every project that the root needs loads and none needs itself. The depth that bounds
the search plays no part in it. -/
theorem projects_topological (d : Disk) (project : Path) (h : project.isAbsolute = true) :
    ((∃ ps, projects d (keyOf d project) = .ok ps) ↔
      ∀ key, Reaches d (keyOf d project) key → Loads d key ∧ ¬ OnCircle d key) ∧
    (∀ ps, projects d (keyOf d project) = .ok ps → IsOrder d (keyOf d project) ps) ∧
    ∀ depth, d.entries.length < depth →
      visit d depth [] [] (keyOf d project) = projects d (keyOf d project) := by
  obtain ⟨names, hroot⟩ := isCanonical_keyOf d h
  refine ⟨⟨?_, projects_of_sound hroot⟩, fun ps => isOrder_of_projects, fun depth hdepth => ?_⟩
  · rintro ⟨ps, hps⟩ key hreach
    have hkey := ((isOrder_of_projects hps).whole key).2 hreach
    obtain ⟨p, hp, hpath⟩ := List.mem_map.1 hkey
    obtain ⟨k, hk, hload⟩ := (isOrder_of_projects hps).loaded p hp
    have hkk := Option.some_inj.1 (hk.symm.trans hpath)
    subst hkk
    exact ⟨⟨p, hload⟩, (visit_ok .nil hps).settled.not_onCircle k (isListed_iff.2 hkey)⟩
  · -- Either depth is enough for the longest chain, so the smaller one gives what the greater does.
    rcases Nat.le_total depth (depthLimit d) with hle | hle
    · exact (visit_deeper (.nil ⟨names, hroot⟩) hdepth hle).symm
    · exact visit_deeper (.nil ⟨names, hroot⟩) (lt_depthLimit d []) hle

def diamond : Disk where
  entries :=
    [([['s']], .dir), ([['s'], "tsconfig.json".toList],
        .file "\x7b\"references\":[\x7b\"path\":\"../b\"\x7d,\x7b\"path\":\"/c/./\"\x7d]\x7d".toUTF8),
      ([['a']], .dir), ([['a'], "tsconfig.json".toList], .file "\x7b\x7d".toUTF8),
      ([['b']], .dir), ([['b'], "tsconfig.json".toList],
        .file "\x7b\"references\":[\x7b\"path\":\"../a\"\x7d]\x7d".toUTF8),
      ([['c']], .dir), ([['c'], "tsconfig.json".toList],
        .file "\x7b\"references\":[\x7b\"path\":\"../b/../a/tsconfig.json\"\x7d]\x7d".toUTF8)]
  here := []

theorem projects_topological_diamond :
    ∃ ps, projects diamond (keyOf diamond (.ofString "/s")) = .ok ps ∧
      ps.map (·.configPath.map (·.text)) = [some "/a/tsconfig.json", some "/b/tsconfig.json",
        some "/c/tsconfig.json", some "/s/tsconfig.json"] ∧
      IsOrder diamond (keyOf diamond (.ofString "/s")) ps := by
  have hkeys : (projects diamond (keyOf diamond (.ofString "/s"))).toOption.map
      (·.map (·.configPath.map (·.text))) = some [some "/a/tsconfig.json",
        some "/b/tsconfig.json", some "/c/tsconfig.json", some "/s/tsconfig.json"] := by
    decide +kernel
  obtain ⟨ps, hps, hkeys⟩ := exists_eq_ok_of_map hkeys
  refine ⟨ps, hps, hkeys, ?_⟩
  exact (projects_topological diamond (.ofString "/s") (by decide)).2.1 ps hps

/-! ## Other disks -/

theorem visitAll_imp {visit visit' : List Project → Path → Except SolutionError (List Project)} :
    ∀ {keys : List Path} {done ps : List Project},
      (∀ key ∈ keys, ∀ done ps, visit done key = .ok ps → visit' done key = .ok ps) →
      visitAll visit done keys = .ok ps → visitAll visit' done keys = .ok ps
  | [], _, _, _, h => h
  | key :: keys, done, ps, hvisit, h => by
    rw [visitAll] at h
    split at h
    · cases h
    · rename_i mid hmid
      rw [visitAll, hvisit key List.mem_cons_self done mid hmid]
      exact visitAll_imp (fun k hk => hvisit k (List.mem_cons_of_mem key hk)) h

/-- **A visit that succeeds goes the same way on another disk**, if the keys that it comes to load
the same projects there, with the same keys for what these need. -/
theorem visit_transfer {d d' : Disk} (R : Path → Prop)
    (hsame : ∀ key p, R key → Project.load d key = .ok p → Project.load d' key = .ok p ∧
      ∀ r ∈ p.references, R (keyOf d r) ∧ keyOf d' r = keyOf d r) :
    ∀ {depth : Nat} {chain : List Path} {done ps : List Project} {key : Path}, R key →
      visit d depth chain done key = .ok ps → visit d' depth chain done key = .ok ps
  | 0, _, _, _, _, _, hv => by cases hv
  | depth + 1, chain, done, ps, key, hkey, hv => by
    rw [visit] at hv ⊢
    split at hv
    · rename_i hlisted
      rw [if_pos hlisted]
      exact hv
    · rename_i hlisted
      rw [if_neg hlisted]
      split at hv
      · cases hv
      · rename_i hchain
        rw [if_neg hchain]
        split at hv
        · cases hv
        · rename_i p hload
          obtain ⟨hload', hrefs⟩ := hsame key p hkey hload
          rw [hload']
          dsimp only
          split at hv
          · cases hv
          · rename_i mid hmid
            have hkeys : p.references.map (keyOf d') = p.references.map (keyOf d) :=
              List.map_congr_left fun r hr => (hrefs r hr).2
            rw [hkeys, visitAll_imp (fun k hk done ps => ?_) hmid]
            · exact hv
            · obtain ⟨r, hr, rfl⟩ := List.mem_map.1 hk
              exact visit_transfer R hsame (hrefs r hr).1

theorem projects_transfer {d d' : Disk} (R : Path → Prop)
    (hsame : ∀ key p, R key → Project.load d key = .ok p → Project.load d' key = .ok p ∧
      ∀ r ∈ p.references, R (keyOf d r) ∧ keyOf d' r = keyOf d r)
    {root : Path} {names : List (List Char)} (hroot : root.IsCanonical names) (hR : R root)
    {ps : List Project} (hps : projects d root = .ok ps) : projects d' root = .ok ps := by
  -- A depth that is enough on both disks.
  have hdeep : visit d (depthLimit d + depthLimit d') [] [] root = .ok ps :=
    (visit_deeper (.nil ⟨names, hroot⟩) (lt_depthLimit d []) (Nat.le_add_right _ _)).trans hps
  exact (visit_deeper (.nil ⟨names, hroot⟩) (lt_depthLimit d' []) (Nat.le_add_left _ _)).symm.trans
    (visit_transfer R hsame hR hdeep)

end Solution

end Conformance
