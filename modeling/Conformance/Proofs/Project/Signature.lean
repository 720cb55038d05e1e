import Conformance.Project.BuildInfo
import Conformance.Proofs.Project.Discovering
import Conformance.Proofs.Text.Field
/-!
# What a signature tells apart

The inputs of a build are hashed as one run of bytes, in which zeros part one field from the next.
Nothing says how long a field is, so a zero inside of a file may be taken for its end: the bytes of
one root file can be those of two (`stream_eq_splice`).  Where no field holds a zero the run of bytes
can be taken apart again, field by field from the front, and two builds with one run of bytes have
the same inputs (`signature_separates`).
-/
namespace Conformance

namespace BuildInputs

/-- No field holds a zero, and no root file has the name of a rule for its path. -/
structure ZeroFree (i : BuildInputs) : Prop where
  config : 0 ∉ i.config.data.toList
  exemptions : 0 ∉ i.exemptions.data.toList
  rules : ∀ name ∈ i.rules, ∃ r : Rule, r.name = name
  paths : ∀ root ∈ i.roots, 0 ∉ bytesOf root.1.text ∧ ∀ r : Rule, r.name ≠ root.1.text
  files : ∀ root ∈ i.roots, 0 ∉ root.2.data.toList

theorem toList_inj {a b : ByteArray} (h : a.data.toList = b.data.toList) : a = b :=
  ByteArray.ext (Array.ext' h)

theorem bytesOf_inj {s t : String} (h : bytesOf s = bytesOf t) : s = t :=
  String.toByteArray_inj.1 (toList_inj h)

theorem text_inj {p q : Path} (h : p.text = q.text) : p = q := by
  obtain ⟨_⟩ := p
  obtain ⟨_⟩ := q
  exact congrArg Path.mk (String.ofList_injective h)

theorem zero_notMem_name (r : Rule) : 0 ∉ bytesOf r.name := by
  rcases r with (_ | _ | _) | _ | _ | _ <;> decide

/-! ## Taking a stream apart -/

def ruleBytes (rules : List String) : List UInt8 := rules.flatMap fun name => bytesOf name ++ [0]

def rootBytes (roots : List (Path × ByteArray)) : List UInt8 :=
  roots.flatMap fun root => bytesOf root.1.text ++ fenced root.2

theorem ruleBytes_cons (name : String) (rules : List String) (rest : List UInt8) :
    ruleBytes (name :: rules) ++ rest = bytesOf name ++ 0 :: (ruleBytes rules ++ rest) := by
  simp [ruleBytes]

theorem rootBytes_cons (root : Path × ByteArray) (roots : List (Path × ByteArray)) :
    rootBytes (root :: roots) =
      bytesOf root.1.text ++ 0 :: (root.2.data.toList ++ 0 :: rootBytes roots) := by
  simp [rootBytes, fenced]

theorem stream_eq (i : BuildInputs) : i.stream = bytesOf toolVersion ++
    0 :: (i.config.data.toList ++ 0 :: 0 :: (i.exemptions.data.toList ++
      0 :: (ruleBytes i.rules ++ rootBytes i.roots))) := by
  simp [stream, fenced, ruleBytes, rootBytes]

theorem rootBytes_inj : ∀ {xs ys : List (Path × ByteArray)},
    (∀ root ∈ xs ++ ys, 0 ∉ bytesOf root.1.text ∧ 0 ∉ root.2.data.toList) →
      rootBytes xs = rootBytes ys → xs = ys
  | [], [], _, _ => rfl
  | [], y :: ys, _, h => by
    rw [rootBytes_cons] at h
    exact absurd h (by simp [rootBytes])
  | x :: xs, [], _, h => by
    rw [rootBytes_cons] at h
    exact absurd h (by simp [rootBytes])
  | x :: xs, y :: ys, hzero, h => by
    have hx := hzero x (by simp)
    have hy := hzero y (by simp)
    rw [rootBytes_cons, rootBytes_cons] at h
    obtain ⟨hpath, h⟩ := Text.append_sep_inj hx.1 hy.1 h
    obtain ⟨hfile, h⟩ := Text.append_sep_inj hx.2 hy.2 h
    have hxy : x = y := Prod.ext (text_inj (bytesOf_inj hpath)) (toList_inj hfile)
    rw [hxy, rootBytes_inj (fun root hroot => hzero root ?_) h]
    rcases List.mem_append.1 hroot with hroot | hroot <;> simp [hroot]

theorem ruleBytes_ne_rootBytes {r : Rule} {rules : List String} {rest : List UInt8}
    {roots : List (Path × ByteArray)} (hroots : ∀ root ∈ roots, 0 ∉ bytesOf root.1.text ∧
      ∀ r : Rule, r.name ≠ root.1.text) :
    ruleBytes (r.name :: rules) ++ rest ≠ rootBytes roots := by
  intro h
  rw [ruleBytes_cons] at h
  cases roots with
  | nil => simp [rootBytes] at h
  | cons root roots =>
    obtain ⟨hzero, hname⟩ := hroots root List.mem_cons_self
    rw [rootBytes_cons] at h
    exact hname r (bytesOf_inj (Text.append_sep_inj (zero_notMem_name r) hzero h).1)

theorem ruleBytes_inj {xs ys : List (Path × ByteArray)}
    (hxs : ∀ root ∈ xs, 0 ∉ bytesOf root.1.text ∧ ∀ r : Rule, r.name ≠ root.1.text)
    (hys : ∀ root ∈ ys, 0 ∉ bytesOf root.1.text ∧ ∀ r : Rule, r.name ≠ root.1.text) :
    ∀ {rules rules' : List String}, (∀ name ∈ rules, ∃ r : Rule, r.name = name) →
      (∀ name ∈ rules', ∃ r : Rule, r.name = name) →
      ruleBytes rules ++ rootBytes xs = ruleBytes rules' ++ rootBytes ys →
      rules = rules' ∧ rootBytes xs = rootBytes ys
  | [], [], _, _, h => ⟨rfl, h⟩
  | [], name :: rules', _, hrules', h => by
    obtain ⟨r, rfl⟩ := hrules' name List.mem_cons_self
    exact absurd h.symm (ruleBytes_ne_rootBytes hxs)
  | name :: rules, [], hrules, _, h => by
    obtain ⟨r, rfl⟩ := hrules name List.mem_cons_self
    exact absurd h (ruleBytes_ne_rootBytes hys)
  | name :: rules, name' :: rules', hrules, hrules', h => by
    obtain ⟨r, rfl⟩ := hrules name List.mem_cons_self
    obtain ⟨r', rfl⟩ := hrules' name' List.mem_cons_self
    rw [ruleBytes_cons, ruleBytes_cons] at h
    obtain ⟨hname, hrest⟩ := Text.append_sep_inj (zero_notMem_name r) (zero_notMem_name r') h
    obtain ⟨rfl, hroots⟩ := ruleBytes_inj hxs hys
      (fun n hn => hrules n (List.mem_cons_of_mem _ hn))
      (fun n hn => hrules' n (List.mem_cons_of_mem _ hn)) hrest
    exact ⟨by rw [bytesOf_inj hname], hroots⟩

/-- **Inputs without zeros are told apart by their stream.** -/
theorem ZeroFree.eq_of_stream {i j : BuildInputs} (hi : i.ZeroFree) (hj : j.ZeroFree)
    (h : i.stream = j.stream) : i = j := by
  rw [stream_eq, stream_eq, List.append_cancel_left_eq] at h
  obtain ⟨hconfig, h⟩ := Text.append_sep_inj hi.config hj.config (List.cons.inj h).2
  obtain ⟨hexemptions, h⟩ := Text.append_sep_inj hi.exemptions hj.exemptions (List.cons.inj h).2
  obtain ⟨hrules, h⟩ := ruleBytes_inj hi.paths hj.paths hi.rules hj.rules h
  have hroots : i.roots = j.roots := by
    refine rootBytes_inj (fun root hroot => ?_) h
    rcases List.mem_append.1 hroot with hroot | hroot
    · exact ⟨(hi.paths root hroot).1, hi.files root hroot⟩
    · exact ⟨(hj.paths root hroot).1, hj.files root hroot⟩
  obtain ⟨_⟩ := i
  obtain ⟨_⟩ := j
  simp only [mk.injEq]
  exact ⟨toList_inj hconfig, toList_inj hexemptions, hrules, hroots⟩

/-- **The stream of a build tells its inputs apart, as long as they hold no zeros**, and so does its
signature, as long as the two streams do not collide: a project whose record has the signature of
other inputs is not up to date. -/
theorem signature_separates (i j : BuildInputs) (hi : i.ZeroFree) (hj : j.ZeroFree) :
    (i.stream = j.stream ↔ i = j) ∧
    ((Sha256.hexDigest i.stream = Sha256.hexDigest j.stream → i.stream = j.stream) →
      ∀ d p info, Project.inputs d p (p.roots d) = j → BuildInfo.read d p = some info →
        info.signature = i.signature → p.isUpToDate d (p.signature d (p.roots d)) = true →
          i = j) := by
  refine ⟨⟨hi.eq_of_stream hj, fun h => by rw [h]⟩, ?_⟩
  intro hcollide d p info hinputs hread hsignature hupToDate
  unfold Project.isUpToDate at hupToDate
  rw [hread] at hupToDate
  simp only [Bool.and_eq_true, beq_iff_eq] at hupToDate
  have hmatch : i.signature = j.signature := by
    rw [← hsignature, hupToDate.1, Project.signature, hinputs]
  exact hi.eq_of_stream hj (hcollide hmatch)

def single (bytes : ByteArray) : BuildInputs := ⟨.empty, .empty, [], [(.ofString "/r", bytes)]⟩

theorem signature_separates_single : (single "a".toUTF8).stream ≠ (single "b".toUTF8).stream ∧
    ∀ d p info, Project.inputs d p (p.roots d) = single "b".toUTF8 →
      BuildInfo.read d p = some info → info.signature = (single "a".toUTF8).signature →
        p.isUpToDate d (p.signature d (p.roots d)) = false := by
  have hzero : ∀ bytes : ByteArray, 0 ∉ bytes.data.toList → (single bytes).ZeroFree := by
    intro bytes hbytes
    have hpath : 0 ∉ bytesOf (Path.ofString "/r").text ∧
        ∀ r : Rule, r.name ≠ (Path.ofString "/r").text :=
      ⟨by decide, fun r => by rcases r with (_ | _ | _) | _ | _ | _ <;> decide⟩
    refine ⟨List.not_mem_nil, List.not_mem_nil, fun name hname => (List.not_mem_nil hname).elim,
      ?_, ?_⟩
    · intro root hroot
      rw [List.mem_singleton.1 hroot]
      exact hpath
    · intro root hroot
      rw [List.mem_singleton.1 hroot]
      exact hbytes
  have hne : single "a".toUTF8 ≠ single "b".toUTF8 := by
    intro h
    have hroots := congrArg (·.roots.map (·.2.data.toList)) h
    revert hroots
    decide
  have hapart := signature_separates (single "a".toUTF8) (single "b".toUTF8)
    (hzero _ (by decide)) (hzero _ (by decide))
  have hdigest : Sha256.hexDigest (single "a".toUTF8).stream ≠
    Sha256.hexDigest (single "b".toUTF8).stream := by decide +kernel
  refine ⟨fun h => hne (hapart.1.1 h), fun d p info hinputs hread hsignature => ?_⟩
  refine Bool.eq_false_iff.2 fun hupToDate => ?_
  exact hne (hapart.2 (fun h => absurd h hdigest) d p info hinputs hread hsignature hupToDate)

/-! ## Zeros -/

/-- **Two root files have the stream of one** that holds the path of the other and what it holds
between zeros. -/
theorem stream_eq_splice (i : BuildInputs) (front back : List (Path × ByteArray)) (p q : Path)
    (a b c : ByteArray)
    (hc : c.data.toList = a.data.toList ++ 0 :: (bytesOf q.text ++ 0 :: b.data.toList)) :
    stream { i with roots := front ++ (p, c) :: back } =
      stream { i with roots := front ++ (p, a) :: (q, b) :: back } := by
  simp [stream, fenced, hc]

def pair : Disk where
  entries := [([['p']], .dir), ([['p'], "tsconfig.json".toList], .file "\x7b\x7d".toUTF8),
    ([['p'], "a.tree.json".toList], .file "a".toUTF8),
    ([['p'], "b.tree.json".toList], .file "b".toUTF8)]
  here := []

/-- The same project with one root file, which holds the other. -/
def spliced : Disk where
  entries := [([['p']], .dir), ([['p'], "tsconfig.json".toList], .file "\x7b\x7d".toUTF8),
    ([['p'], "a.tree.json".toList], .file "a\x00/p/b.tree.json\x00b".toUTF8)]
  here := []

/-- **A zero in a root file may hide that another one is gone.** -/
theorem stream_pair_eq_spliced : ∃ p, Project.load pair (.ofString "/p/tsconfig.json") = .ok p ∧
    Project.load spliced (.ofString "/p/tsconfig.json") = .ok p ∧
    (p.inputs pair (p.roots pair)).stream = (p.inputs spliced (p.roots spliced)).stream ∧
    p.inputs pair (p.roots pair) ≠ p.inputs spliced (p.roots spliced) := by
  have hfacts : (Project.load pair (.ofString "/p/tsconfig.json")).toOption.map (fun p =>
      decide (p.files = none ∧ (p.taken pair).Pairwise (Project.rootLe · ·) ∧
        (p.taken spliced).Pairwise (Project.rootLe · ·) ∧
        (p.inputs pair ((p.taken pair).eraseDups.map (·.2))).stream =
          (p.inputs spliced ((p.taken spliced).eraseDups.map (·.2))).stream ∧
        (p.taken pair).eraseDups.length ≠ (p.taken spliced).eraseDups.length)) = some true := by
    decide +kernel
  have hconfig : spliced.readText (.ofString "/p/tsconfig.json") =
    pair.readText (.ofString "/p/tsconfig.json") := by rfl
  cases hload : Project.load pair (.ofString "/p/tsconfig.json") with
  | error e =>
    rw [hload] at hfacts
    cases hfacts
  | ok p =>
    rw [hload] at hfacts
    obtain ⟨hnone, hpair, hspliced, hstream, hroots⟩ :=
      of_decide_eq_true (Option.some_inj.1 hfacts)
    refine ⟨p, rfl, ?_, ?_, fun h => hroots ?_⟩
    · rw [Project.load_congr hconfig, hload]
    · rw [Project.roots_of_ordered hnone hpair, Project.roots_of_ordered hnone hspliced]
      exact hstream
    · have hlength := congrArg (·.roots.length) h
      simpa [Project.inputs, Project.roots_of_ordered hnone hpair,
        Project.roots_of_ordered hnone hspliced] using hlength

end BuildInputs

end Conformance
