import Conformance.Proofs.Walk
import Conformance.Rule.Catalog
import Mathlib.Data.List.TakeWhile
/-!
# When registration closes

A checker is used by one request after another: a handler is attached, a rule attaches all that it
has, a file is walked.  The first walk closes registration, also when it fails or passes over a
declaration file.  So there are two states only.  An open checker holds what was attached so far; a
closed one holds what was attached before the first walk, refuses everything else, and is the same
after every request (`serveAll_of_sealed`).  Whatever comes in between, a walk of a file has the
result that it has on a new checker with the registrations from before the first walk.

A rule attaches its handlers one after the other, and a refusal in between would leave it half
registered.  There is none (`attachEach_eq_onAll`): the state changes between two rules only.
-/
namespace Conformance

theorem Rule.exemptHandlers_ne_nil (r : Rule) (isExempt : ProjectPath → Bool) :
    r.exemptHandlers isExempt ≠ [] := by
  cases r <;> exact List.cons_ne_nil _ _

namespace Checker

/-! ## Requests -/

inductive Request where
  | on (kind : NodeKind) (rule : RuleId) (handler : Handler)
  /-- A rule attaches all of its handlers. -/
  | register (rule : Rule) (isExempt : ProjectPath → Bool)
  | execute (file : SourceFile)

namespace Request

def isExecution : Request → Bool
  | .execute _ => true
  | _ => false

def rule? : Request → Option RuleId
  | .on _ rule _ => some rule
  | .register rule _ => some rule.id
  | .execute _ => none

def registrations : Request → List Registration
  | .on kind rule handler => [⟨kind, rule, handler⟩]
  | .register rule isExempt =>
    (rule.exemptHandlers isExempt).map fun h => ⟨h.1, rule.id, h.2⟩
  | .execute _ => []

end Request

inductive Reply where
  | attached
  | refused (e : RegistrationClosed)
  | walked (result : Except Defect (List Finding))

/-- Attaches handlers of a rule one after the other. The first refusal ends it, and what was
attached until then stays. -/
def attachEach (c : Checker) (rule : RuleId) : List (NodeKind × Handler) → Reply × Checker
  | [] => (.attached, c)
  | h :: hs => match c.on h.1 rule h.2 with
    | .error e => (.refused e, c)
    | .ok c => c.attachEach rule hs

def serve (c : Checker) : Request → Reply × Checker
  | .on kind rule handler => c.attachEach rule [(kind, handler)]
  | .register rule isExempt => c.attachEach rule.id (rule.exemptHandlers isExempt)
  | .execute file => (.walked (c.execute file).1, (c.execute file).2)

def serveAll (c : Checker) : List Request → List Reply × Checker
  | [] => ([], c)
  | q :: qs =>
    let rest := (c.serve q).2.serveAll qs
    ((c.serve q).1 :: rest.1, rest.2)

theorem serveAll_append : ∀ (qs rs : List Request) (c : Checker), c.serveAll (qs ++ rs) =
    ((c.serveAll qs).1 ++ ((c.serveAll qs).2.serveAll rs).1, ((c.serveAll qs).2.serveAll rs).2)
  | [], _, _ => rfl
  | q :: qs, rs, c => by
    rw [List.cons_append, serveAll, serveAll_append qs rs (c.serve q).2]
    rfl

theorem length_serveAll : ∀ (qs : List Request) (c : Checker), (c.serveAll qs).1.length = qs.length
  | [], _ => rfl
  | q :: qs, c => by
    rw [serveAll, List.length_cons, List.length_cons, length_serveAll qs (c.serve q).2]

/-! ## One request -/

theorem on_of_sealed {c : Checker} (h : c.isSealed = true) (kind : NodeKind) (rule : RuleId)
    (handler : Handler) : c.on kind rule handler = .error ⟨rule.name⟩ := by
  rw [on, if_pos h]

theorem on_of_open {c : Checker} (h : c.isSealed = false) (kind : NodeKind) (rule : RuleId)
    (handler : Handler) : c.on kind rule handler = .ok (c.attach ⟨kind, rule, handler⟩) := by
  rw [on, if_neg (by simp [h])]

theorem attachEach_of_sealed {c : Checker} (h : c.isSealed = true) (rule : RuleId) :
    ∀ {hs : List (NodeKind × Handler)}, hs ≠ [] →
      c.attachEach rule hs = (.refused ⟨rule.name⟩, c)
  | [], hne => absurd rfl hne
  | handler :: hs, _ => by rw [attachEach, on_of_sealed h]

theorem attachEach_of_open (rule : RuleId) : ∀ (hs : List (NodeKind × Handler)) {c : Checker},
    c.isSealed = false → c.attachEach rule hs =
      (.attached, (hs.map fun h => (⟨h.1, rule, h.2⟩ : Registration)).foldl attach c)
  | [], _, _ => rfl
  | handler :: hs, c, h => by
    rw [attachEach, on_of_open h]
    exact attachEach_of_open rule hs (c := c.attach ⟨handler.1, rule, handler.2⟩) h

/-- **A rule attaches all of its handlers or none**, though it attaches them one by one. -/
theorem attachEach_eq_onAll (c : Checker) (rule : RuleId) (hs : List (NodeKind × Handler)) :
    c.attachEach rule hs = match c.onAll rule hs with
      | .error e => (.refused e, c)
      | .ok c => (.attached, c) := by
  cases hopen : c.isSealed with
  | true =>
    cases hs with
    | nil => rfl
    | cons handler hs =>
      rw [attachEach_of_sealed hopen rule (by simp), onAll, List.foldlM_cons, on_of_sealed hopen]
      rfl
  | false =>
    have hall := foldlM_on (hs.map fun h => ⟨h.1, rule, h.2⟩) c hopen
    rw [List.foldlM_map] at hall
    rw [attachEach_of_open rule hs hopen, onAll, hall]

theorem serve_execute (c : Checker) (file : SourceFile) :
    c.serve (.execute file) = (.walked (c.findings file), { c with isSealed := true }) := rfl

theorem serve_of_open {c : Checker} (h : c.isSealed = false) {q : Request}
    (hq : q.isExecution = false) : c.serve q = (.attached, q.registrations.foldl attach c) := by
  cases q with
  | on kind rule handler => exact attachEach_of_open rule [(kind, handler)] h
  | register rule isExempt => exact attachEach_of_open rule.id (rule.exemptHandlers isExempt) h
  | execute file => cases hq

theorem serve_of_sealed {c : Checker} (h : c.isSealed = true) {q : Request} {rule : RuleId}
    (hq : q.rule? = some rule) : c.serve q = (.refused ⟨rule.name⟩, c) := by
  cases q with
  | on kind rule handler =>
    cases hq
    exact attachEach_of_sealed h rule (List.cons_ne_nil _ _)
  | register rule isExempt =>
    cases hq
    exact attachEach_of_sealed h rule.id (rule.exemptHandlers_ne_nil isExempt)
  | execute file => cases hq

theorem serve_snd_of_sealed {c : Checker} (h : c.isSealed = true) (q : Request) :
    (c.serve q).2 = c := by
  cases hq : q.rule? with
  | some rule => rw [serve_of_sealed h hq]
  | none =>
    cases q with
    | on kind rule handler => cases hq
    | register rule isExempt => cases hq
    | execute file =>
      rw [serve_execute]
      cases c
      cases h
      rfl

/-! ## Many requests -/

/-- **A closed checker stays the same**, whatever is asked of it. -/
theorem serveAll_of_sealed : ∀ (qs : List Request) {c : Checker}, c.isSealed = true →
    (c.serveAll qs).2 = c
  | [], _, _ => rfl
  | q :: qs, c, h => by
    rw [serveAll, serve_snd_of_sealed h q]
    exact serveAll_of_sealed qs h

/-- What requests attach: those from before the first execution do. -/
def opening (qs : List Request) : List Registration :=
  (qs.takeWhile fun q => !q.isExecution).flatMap Request.registrations

/-- **The state of a checker is what was attached before the first execution, and whether there was
one.** -/
theorem serveAll_of_open : ∀ (qs : List Request) {c : Checker}, c.isSealed = false →
    (c.serveAll qs).2 =
      { (opening qs).foldl attach c with isSealed := qs.any Request.isExecution }
  | [], c, h => by
    cases c
    cases h
    rfl
  | q :: qs, c, h => by
    rw [serveAll]
    cases hq : q.isExecution with
    | true =>
      -- the execution closes the checker, and nothing changes it from there on
      have hclosed : (c.serve q).2 = { c with isSealed := true } := by
        cases q with
        | on kind rule handler => cases hq
        | register rule isExempt => cases hq
        | execute file => rfl
      have hopening : opening (q :: qs) = [] := by
        rw [opening, List.takeWhile_cons_of_neg (by simp [hq]), List.flatMap_nil]
      rw [hclosed, serveAll_of_sealed qs rfl, hopening, List.any_cons, hq]
      rfl
    | false =>
      have hopening : opening (q :: qs) = q.registrations ++ opening qs := by
        rw [opening, List.takeWhile_cons_of_pos (by simp [hq]), List.flatMap_cons]
        rfl
      have hopen : (q.registrations.foldl attach c).isSealed = false :=
        (foldl_attach_isSealed q.registrations c).trans h
      rw [serve_of_open h hq, serveAll_of_open qs hopen, hopening, List.foldl_append,
        List.any_cons, hq, Bool.false_or]

theorem serveAll_opening (program : Program) (qs : List Request) :
    ((new program).serveAll (qs.takeWhile fun q => !q.isExecution)).2 =
      ofRegistrations program (opening qs) := by
  have hnone : (qs.takeWhile fun q => !q.isExecution).any Request.isExecution = false := by
    rw [List.any_eq_false]
    intro q hq
    simpa using List.mem_takeWhile_imp hq
  have hsame : opening (qs.takeWhile fun q => !q.isExecution) = opening qs := by
    rw [opening, List.takeWhile_idem, opening]
  have hopen := foldl_attach_isSealed (opening qs) (new program)
  simp only [serveAll_of_open _ (c := new program) rfl, hnone, hsame]
  rw [ofRegistrations, ← show (new program).isSealed = false from rfl, ← hopen]

/-- **Registration closes at the first execution, for good.** Whatever was asked of a new checker
before, in any order:
- an execution has the result that it has on a new checker that was given the requests from before
  the first execution only, all of which were granted there;
- a rule is registered with all of its handlers or with none;
- as long as nothing was executed, a handler or a rule is attached;
- from the first execution on, each is refused under its own name and leaves the checker as it is,
  so that all other replies are those that there are without it. -/
theorem registration_closes (program : Program) (before : List Request) :
    let c := ((new program).serveAll before).2
    let fresh := ((new program).serveAll (before.takeWhile fun q => !q.isExecution)).2
    fresh = ofRegistrations program (opening before) ∧
    (∀ file, (c.serve (.execute file)).1 = .walked (fresh.execute file).1) ∧
    (∀ rule isExempt, c.serve (.register rule isExempt) =
      match c.onAll rule.id (rule.exemptHandlers isExempt) with
      | .error e => (.refused e, c)
      | .ok full => (.attached, full)) ∧
    ∀ q rule, q.rule? = some rule →
      (before.any Request.isExecution = false →
        (c.serve q).1 = .attached ∧
        (c.serve q).2.registrations = c.registrations ++ q.registrations) ∧
      (before.any Request.isExecution = true →
        c.serve q = (.refused ⟨rule.name⟩, c) ∧
        (c.serve q).2.handlerCount = c.handlerCount ∧
        ∀ after, ((new program).serveAll (before ++ q :: after)).1.eraseIdx before.length =
          ((new program).serveAll (before ++ after)).1) := by
  intro c fresh
  have hc : c = { ofRegistrations program (opening before) with
      isSealed := before.any Request.isExecution } := serveAll_of_open before rfl
  have hfresh : fresh = ofRegistrations program (opening before) := serveAll_opening program before
  refine ⟨hfresh, fun file => ?_, fun rule isExempt => attachEach_eq_onAll c rule.id _,
    fun q rule hq => ⟨fun hnone => ?_, fun hsome => ?_⟩⟩
  · rw [serve_execute, hfresh, hc]
    rfl
  · have hopen : c.isSealed = false := by rw [hc, ← hnone]
    have hexec : q.isExecution = false := by
      cases q with
      | execute file => cases hq
      | _ => rfl
    rw [serve_of_open hopen hexec]
    exact ⟨rfl, foldl_attach_registrations q.registrations c⟩
  · have hclosed : c.isSealed = true := by rw [hc, ← hsome]
    have hserve := serve_of_sealed hclosed hq
    refine ⟨hserve, by rw [hserve], fun after => ?_⟩
    have hlength := length_serveAll before (new program)
    rw [serveAll_append, serveAll_append, serveAll, hserve,
      List.eraseIdx_append_of_length_le hlength.le, hlength, Nat.sub_self]
    rfl

/-! A rule is registered, an execution fails, another passes over a declaration file, and the next
rule comes too late. -/

def hollowFile (name : String) : SourceFile :=
  ⟨name, false, "()", [], none, [⟨.callExpression, 0, 2, none, none, none, none, []⟩]⟩

def lateRequests : List Request :=
  [.register (.trustedSink .html) fun _ => false, .execute (hollowFile "a.ts"),
    .execute (hollowFile "a.d.ts")]

theorem registration_closes_late :
    let c := ((new ⟨[], []⟩).serveAll lateRequests).2
    lateRequests.any Request.isExecution = true ∧
      c.serve (.register .equalsNan fun _ => false) = (.refused ⟨"equals-nan"⟩, c) ∧
      c.handlerCount = 4 ∧
      ∀ after, ((new ⟨[], []⟩).serveAll (lateRequests ++
          .register .equalsNan (fun _ => false) :: after)).1.eraseIdx 3 =
        ((new ⟨[], []⟩).serveAll (lateRequests ++ after)).1 := by
  intro c
  have hsome : lateRequests.any Request.isExecution = true := rfl
  obtain ⟨hserve, -, hafter⟩ := ((registration_closes ⟨[], []⟩ lateRequests).2.2.2
    (.register .equalsNan fun _ => false) Rule.equalsNan.id rfl).2 hsome
  exact ⟨hsome, hserve, rfl, hafter⟩

end Checker
end Conformance
