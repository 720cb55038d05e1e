import Conformance.Proofs.Path.Joining
/-!
# Paths resolved more than once

What a walk leaves on its stack are names above double dots, and no double dots if it started at the
root (`IsPiled`).  Walking along what is left leads to the same stack, so it makes no difference
whether a path is normalized before something is joined to it (`normalize_isResolution`).

The stack need not be kept beside the path: the path walked so far can be written out, with a name
put behind it or its last name taken off again, and its last step tells whether a double dot takes a
name or stays (`normalize_eq_foldl`).
-/
namespace Conformance.Path

open Text (joinWith)

/-! ## What a walk leaves on its stack -/

/-- Names above double dots; no double dots at the root. -/
def IsPiled (rooted : Bool) (stack : List (List Char)) : Prop :=
  ∃ (names : List (List Char)) (ups : Nat), stack = names ++ List.replicate ups dotDot ∧
    (∀ n ∈ names, IsName n) ∧ (rooted = true → ups = 0)

theorem isPiled_nil (rooted : Bool) : IsPiled rooted [] := ⟨[], 0, rfl, by simp, fun _ => rfl⟩

theorem stackStep_replicate_dotDot (ups : Nat) :
    stackStep false (List.replicate ups dotDot) .up = List.replicate (ups + 1) dotDot := by
  cases ups with
  | zero => rfl
  | succ ups =>
    rw [List.replicate_succ, stackStep, if_pos rfl]
    rfl

theorem IsPiled.step {rooted : Bool} {stack : List (List Char)} (h : IsPiled rooted stack)
    {c : Component} (hname : ∀ n, c = .name n → IsName n) :
    IsPiled rooted (stackStep rooted stack c) := by
  obtain ⟨names, ups, rfl, hnames, hroot⟩ := h
  cases c with
  | root => exact ⟨names, ups, rfl, hnames, hroot⟩
  | here => exact ⟨names, ups, rfl, hnames, hroot⟩
  | name n => exact ⟨n :: names, ups, rfl, List.forall_mem_cons.2 ⟨hname n rfl, hnames⟩, hroot⟩
  | up =>
    cases names with
    | cons top below =>
      have htop : top ≠ dotDot := (hnames top List.mem_cons_self).notUp
      exact ⟨below, ups, if_neg htop, fun n hn => hnames n (List.mem_cons_of_mem top hn), hroot⟩
    | nil =>
      cases rooted with
      | true =>
        obtain rfl := hroot rfl
        exact isPiled_nil true
      | false =>
        refine ⟨[], ups + 1, ?_, hnames, fun h => by cases h⟩
        exact stackStep_replicate_dotDot ups

theorem IsPiled.foldl {rooted : Bool} : ∀ {steps : List Component} {stack : List (List Char)},
    IsPiled rooted stack → (∀ n, Component.name n ∈ steps → IsName n) →
      IsPiled rooted (steps.foldl (stackStep rooted) stack)
  | [], _, h, _ => h
  | c :: steps, stack, h, hsteps => by
    have hstep : IsPiled rooted (stackStep rooted stack c) :=
      h.step fun n hn => hsteps n (by rw [hn]; exact List.mem_cons_self)
    rw [List.foldl_cons]
    exact hstep.foldl fun n hn => hsteps n (List.mem_cons_of_mem c hn)

theorem isName_of_mem_pieces {p : Path} {n : List Char}
    (h : Component.name n ∈ stepsOf p.pieces) : IsName n :=
  isName_of_mem_stepsOf (fun _ => slash_not_mem_pieces) h

theorem isPiled_resolvedNames (p : Path) :
    IsPiled p.isAbsolute (resolvedNames p.isAbsolute p.components).reverse := by
  rw [resolvedNames, List.reverse_reverse, foldl_components]
  exact (isPiled_nil _).foldl fun n => isName_of_mem_pieces

/-! ## Walking along what is left -/

theorem stepsOf_replicate_dotDot (ups : Nat) :
    stepsOf (List.replicate ups dotDot) = List.replicate ups .up := by
  have hup : Component.ofPiece dotDot = .up := rfl
  have hbusy : (!isIdle dotDot) = true := rfl
  rw [stepsOf, List.filter_replicate, if_pos hbusy, List.map_replicate, hup]

theorem IsPiled.steps {rooted : Bool} {stack : List (List Char)} (h : IsPiled rooted stack) :
    ∃ (ups : Nat) (names : List (List Char)),
      stepsOf stack.reverse = List.replicate ups .up ++ names.map .name ∧
        (rooted = true → ups = 0) := by
  obtain ⟨names, ups, rfl, hnames, hroot⟩ := h
  refine ⟨ups, names.reverse, ?_, hroot⟩
  rw [List.reverse_append, List.reverse_replicate, stepsOf_append, stepsOf_replicate_dotDot,
    stepsOf_names fun n hn => hnames n (List.mem_reverse.1 hn)]

theorem foldl_stackStep_ups : ∀ ups above : Nat,
    (List.replicate ups Component.up).foldl (stackStep false) (List.replicate above dotDot) =
      List.replicate (above + ups) dotDot
  | 0, above => rfl
  | ups + 1, above => by
    rw [List.replicate_succ, List.foldl_cons, stackStep_replicate_dotDot,
      foldl_stackStep_ups ups (above + 1), Nat.add_assoc, Nat.add_comm 1 ups]

/-- **A walk along what a walk left on its stack leads there again.** -/
theorem IsPiled.foldl_reverse {rooted : Bool} {stack : List (List Char)}
    (h : IsPiled rooted stack) : (stepsOf stack.reverse).foldl (stackStep rooted) [] = stack := by
  obtain ⟨names, ups, rfl, hnames, hroot⟩ := h
  have hups : (List.replicate ups Component.up).foldl (stackStep rooted) [] =
      List.replicate ups dotDot := by
    cases rooted with
    | true =>
      obtain rfl := hroot rfl
      rfl
    | false => simpa using foldl_stackStep_ups ups 0
  rw [List.reverse_append, List.reverse_replicate, stepsOf_append, stepsOf_replicate_dotDot,
    stepsOf_names fun n hn => hnames n (List.mem_reverse.1 hn), List.foldl_append, hups,
    foldl_stackStep_names, List.reverse_reverse]

theorem isAbsolute_normalize (p : Path) : p.normalize.isAbsolute = p.isAbsolute := by
  rw [isAbsolute, (isNormal_resolvedNames p).lead_eq]
  cases p.isAbsolute <;> rfl

/-- **A walk along a normalized path leads where one along the path itself leads.** -/
theorem foldl_pieces_normalize (p : Path) :
    (stepsOf p.normalize.pieces).foldl (stackStep p.isAbsolute) [] =
      (stepsOf p.pieces).foldl (stackStep p.isAbsolute) [] := by
  have hrewalk := (isPiled_resolvedNames p).foldl_reverse
  rw [List.reverse_reverse, ← (isNormal_resolvedNames p).stepsOf_pieces] at hrewalk
  rw [hrewalk, resolvedNames, List.reverse_reverse, foldl_components]

theorem normalize_congr {p q : Path} (hrooted : p.isAbsolute = q.isAbsolute)
    (hwalk : (stepsOf p.pieces).foldl (stackStep p.isAbsolute) [] =
      (stepsOf q.pieces).foldl (stackStep p.isAbsolute) []) : p.normalize = q.normalize := by
  rw [normalize, normalize, resolvedNames, resolvedNames, foldl_components, foldl_components,
    ← hrooted, hwalk]

/-! ## With the path written out -/

/-- Takes one step behind a path. Double dots take off its last name, if the last step of the path
is one, and go up from it if not; the root is above itself. -/
def takeStep (walked : Path) : Component → Path
  | .root => walked.join (.ofString "/")
  | .here => walked
  | .name n => walked.join ⟨n⟩
  | .up => match walked.components.getLast? with
    | some (.name _) => walked.parent.getD walked
    | _ => if walked.isAbsolute then walked else walked.join ⟨dotDot⟩

def leadOf (rooted : Bool) : Lead := if rooted then .root else .bare

def written (rooted : Bool) (stack : List (List Char)) : Path :=
  ofPieces (leadOf rooted) stack.reverse

theorem IsPiled.isNormal {rooted : Bool} {stack : List (List Char)} (h : IsPiled rooted stack) :
    (written rooted stack).IsNormal (leadOf rooted) stack.reverse := by
  have hdots : isIdle dotDot = false ∧ '/' ∉ dotDot := by decide
  have hall : ∀ n ∈ stack.reverse, isIdle n = false ∧ '/' ∉ n := by
    obtain ⟨names, ups, rfl, hnames, -⟩ := h
    intro n hn
    rcases List.mem_append.1 (List.mem_reverse.1 hn) with hn | hn
    · exact ⟨(hnames n hn).busy, (hnames n hn).whole⟩
    · rw [(List.mem_replicate.1 hn).2]
      exact hdots
  refine ⟨rfl, ?_, fun n hn => (hall n hn).1, fun n hn => (hall n hn).2⟩
  cases rooted <;> simp [leadOf]

theorem IsPiled.join_written {rooted : Bool} {stack : List (List Char)} (h : IsPiled rooted stack)
    {n : List Char} (hbusy : isIdle n = false) (hwhole : '/' ∉ n) :
    (written rooted stack).join ⟨n⟩ = written rooted (n :: stack) := by
  have hfirst : ∃ first more, [n] = first :: more ∧ isIdle first = false := ⟨n, [], rfl, hbusy⟩
  have hjoin : (written rooted stack).join ⟨n⟩ = ofPieces (leadOf rooted) (stack.reverse ++ [n]) :=
    h.isNormal.join hfirst fun m hm => by
      rw [List.mem_singleton.1 hm]
      exact hwhole
  rw [hjoin, written, List.reverse_cons]

theorem getLast?_components_written {rooted : Bool} {stack : List (List Char)} {top : List Char}
    (h : IsPiled rooted (top :: stack)) :
    (written rooted (top :: stack)).components.getLast? = some (.ofPiece top) := by
  have hbusy : isIdle top = false := h.isNormal.busy top (by simp)
  rw [h.isNormal.components, List.reverse_cons, stepsOf_append, ← List.append_assoc, stepsOf_cons,
    if_neg (by simp [hbusy])]
  exact List.getLast?_concat

/-- **A step behind what is written does what it does on the stack.** -/
theorem IsPiled.takeStep_written {rooted : Bool} {stack : List (List Char)}
    (h : IsPiled rooted stack) {c : Component} (hroot : c ≠ .root)
    (hname : ∀ n, c = .name n → IsName n) :
    takeStep (written rooted stack) c = written rooted (stackStep rooted stack c) := by
  cases c with
  | root => exact absurd rfl hroot
  | here => rfl
  | name n => exact h.join_written (hname n rfl).busy (hname n rfl).whole
  | up =>
    have hstart : (written rooted stack).isAbsolute = rooted := by
      rw [isAbsolute, h.isNormal.lead_eq]
      cases rooted <;> rfl
    have hup : (written rooted stack).join ⟨dotDot⟩ = written rooted (dotDot :: stack) :=
      h.join_written rfl (by decide)
    cases stack with
    | nil =>
      have hnone : (written rooted []).components.getLast? = none ∨
          (written rooted []).components.getLast? = some .root := by
        cases rooted <;> decide
      have htake : takeStep (written rooted []) .up =
          if rooted then written rooted [] else (written rooted []).join ⟨dotDot⟩ := by
        rw [takeStep, hstart]
        rcases hnone with hnone | hnone <;> rw [hnone]
      rw [htake, hup]
      cases rooted <;> rfl
    | cons top below =>
      have hlast := getLast?_components_written h
      by_cases htop : top = dotDot
      · subst htop
        have hrelative : rooted = false := by
          obtain ⟨names, ups, hstack, hnames, hups⟩ := h
          rw [Bool.eq_false_iff]
          intro hrooted
          rw [hups hrooted, List.replicate_zero, List.append_nil] at hstack
          exact (hnames dotDot (by rw [← hstack]; exact List.mem_cons_self)).notUp rfl
        have hdots : Component.ofPiece dotDot = .up := rfl
        subst hrelative
        rw [takeStep, hlast, hdots, hstart]
        simpa [stackStep] using hup
      · have hofPiece : Component.ofPiece top = .name top := if_neg (by simpa [dotDot] using htop)
        obtain ⟨dir, hparent, hdir⟩ := h.isNormal.parent (by simp)
        rw [takeStep, hlast, hofPiece]
        dsimp only
        rw [hparent, Option.getD_some, hdir.eq, stackStep, if_neg htop, written]
        simp

theorem IsPiled.foldl_takeStep {rooted : Bool} : ∀ {steps : List Component}
    {stack : List (List Char)}, IsPiled rooted stack → .root ∉ steps →
      (∀ n, Component.name n ∈ steps → IsName n) →
      steps.foldl takeStep (written rooted stack) =
        written rooted (steps.foldl (stackStep rooted) stack)
  | [], _, _, _, _ => rfl
  | c :: steps, stack, h, hroot, hsteps => by
    have hname : ∀ n, c = .name n → IsName n :=
      fun n hn => hsteps n (by rw [hn]; exact List.mem_cons_self)
    have hc : c ≠ .root := fun hc => hroot (by rw [hc]; exact List.mem_cons_self)
    rw [List.foldl_cons, List.foldl_cons, h.takeStep_written hc hname]
    exact (h.step hname).foldl_takeStep (fun hm => hroot (List.mem_cons_of_mem c hm))
      fun n hn => hsteps n (List.mem_cons_of_mem c hn)

theorem normalize_eq_foldl (p : Path) : p.normalize = p.components.foldl takeStep ⟨[]⟩ := by
  have hroot : Component.root ∉ stepsOf p.pieces := by
    intro hmem
    obtain ⟨piece, -, hstep⟩ := List.mem_map.1 hmem
    unfold Component.ofPiece at hstep
    split at hstep <;> cases hstep
  have hstart : p.lead.steps.foldl takeStep ⟨[]⟩ = written p.isAbsolute [] := by
    unfold isAbsolute
    cases p.lead <;> decide
  rw [components, List.foldl_append, hstart,
    (isPiled_nil p.isAbsolute).foldl_takeStep hroot fun n => isName_of_mem_pieces, normalize,
    resolvedNames, foldl_components, written, leadOf]

/-! ## Resolved paths -/

/-- A path with the dots of another one resolved: double dots stand in front only, and not behind
the root. -/
structure IsResolution (p r : Path) : Prop where
  steps : ∃ (ups : Nat) (names : List (List Char)), r.components =
    (if p.isAbsolute then [.root] else []) ++ List.replicate ups .up ++ names.map .name ∧
      (p.isAbsolute = true → ups = 0)
  isAbsolute : r.isAbsolute = p.isAbsolute
  settled : r.normalize = r

/-- **Normalizing resolves a path once and for all**, and does so step by step behind the empty path.
It makes no difference whether it is done before something is joined to the path, too. -/
theorem normalize_isResolution (p q : Path) :
    p.IsResolution p.normalize ∧ p.normalize = p.components.foldl takeStep ⟨[]⟩ ∧
      (p.join q).normalize = (p.normalize.join q).normalize := by
  have hrooted := isAbsolute_normalize p
  have hwalk := foldl_pieces_normalize p
  refine ⟨⟨?_, hrooted, ?_⟩, normalize_eq_foldl p, ?_⟩
  · obtain ⟨ups, names, hsteps, hups⟩ := (isPiled_resolvedNames p).steps
    refine ⟨ups, names, ?_, hups⟩
    rw [(isNormal_resolvedNames p).components, ← List.reverse_reverse (resolvedNames _ _), hsteps,
      List.append_assoc]
    cases p.isAbsolute <;> rfl
  · refine normalize_congr hrooted ?_
    rw [hrooted, hwalk]
  · by_cases hq : q.isAbsolute = true
    · rw [join_of_isAbsolute p hq, join_of_isAbsolute p.normalize hq]
    · rw [Bool.not_eq_true] at hq
      refine normalize_congr ?_ ?_
      · rw [isAbsolute_join_eq p hq, isAbsolute_join_eq p.normalize hq, hrooted]
      · rw [isAbsolute_join_eq p hq, stepsOf_pieces_join p hq, stepsOf_pieces_join p.normalize hq,
          List.foldl_append, List.foldl_append, hwalk]

end Conformance.Path
