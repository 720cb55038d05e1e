import Conformance.Checker
import Conformance.Proofs.Gathering
/-!
# What a walk calls

A checker keeps a stack of nodes and an index of registrations by kind.  Neither shows: a
walk calls, at every node in preorder, the registrations of the node's kind in the order they
were made (`walk_eq`).  This holds for calls with any effects, so for calls that are written
down as they are made (`recorded`).  The first call that fails ends the walk.
-/
namespace Conformance
namespace Checker

/-! ## The index -/

/-- The index names, for each kind, the places of its registrations. -/
structure Indexed (c : Checker) : Prop where
  inRange : ∀ kind, ∀ i ∈ c.byKind kind, i < c.registrations.length
  finds : ∀ kind, c.attachedTo kind = c.registrations.filter (fun r => r.kind == kind)

theorem indexed_new (program : Program) : (new program).Indexed :=
  ⟨fun _ _ h => (by cases h), fun _ => rfl⟩

theorem Indexed.attach {c : Checker} (h : c.Indexed) (r : Registration) : (c.attach r).Indexed := by
  -- a longer list has the same registrations at the places that were in range before
  have hold : ∀ kind, (c.byKind kind).filterMap (fun i => (c.registrations ++ [r])[i]?) =
      c.registrations.filter (fun r => r.kind == kind) := by
    intro kind
    rw [← h.finds kind, attachedTo]
    exact List.filterMap_congr fun i hi => List.getElem?_append_left (h.inRange kind i hi)
  constructor
  · intro kind i hi
    simp only [Checker.attach, List.length_append, List.length_singleton] at hi ⊢
    split at hi
    · rcases List.mem_append.1 hi with hi | hi
      · have := h.inRange kind i hi
        omega
      · simp only [List.mem_singleton] at hi
        omega
    · have := h.inRange kind i hi
      omega
  · intro kind
    simp only [attachedTo, Checker.attach]
    split
    · rename_i hk
      rw [List.filterMap_append, hold]
      simp [hk]
    · rename_i hk
      rw [hold]
      simp [Ne.symm hk]

theorem foldl_attach_registrations : ∀ (rs : List Registration) (c : Checker),
    (rs.foldl attach c).registrations = c.registrations ++ rs
  | [], c => by simp
  | r :: rs, c => by
    rw [List.foldl_cons, foldl_attach_registrations rs (c.attach r)]
    simp [Checker.attach]

theorem Indexed.foldl_attach : ∀ (rs : List Registration) {c : Checker}, c.Indexed →
    (rs.foldl Checker.attach c).Indexed
  | [], _, h => h
  | r :: rs, _, h => Indexed.foldl_attach rs (h.attach r)

theorem foldl_attach_isSealed : ∀ (rs : List Registration) (c : Checker),
    (rs.foldl attach c).isSealed = c.isSealed
  | [], _ => rfl
  | r :: rs, c => foldl_attach_isSealed rs (c.attach r)

theorem foldl_attach_program : ∀ (rs : List Registration) (c : Checker),
    (rs.foldl attach c).program = c.program
  | [], _ => rfl
  | r :: rs, c => foldl_attach_program rs (c.attach r)

@[simp] theorem ofRegistrations_program (program : Program) (rs : List Registration) :
    (ofRegistrations program rs).program = program := foldl_attach_program rs (new program)

/-- **The index finds the registrations of a kind, in the order they were made.** -/
@[simp] theorem attachedTo_ofRegistrations (program : Program) (rs : List Registration)
    (kind : NodeKind) :
    (ofRegistrations program rs).attachedTo kind = rs.filter (fun r => r.kind == kind) := by
  rw [ofRegistrations, ((indexed_new program).foldl_attach rs).finds kind,
    foldl_attach_registrations]
  rfl

theorem foldlM_on : ∀ (rs : List Registration) (c : Checker), c.isSealed = false →
    rs.foldlM (fun c r => c.on r.kind r.rule r.handler) c = .ok (rs.foldl attach c)
  | [], _, _ => rfl
  | r :: rs, c, h => by
    have hon : c.on r.kind r.rule r.handler = .ok (c.attach r) := by simp [on, h]
    rw [List.foldlM_cons, hon]
    exact foldlM_on rs (c.attach r) h

/-! ## The order of the calls -/

/-- The calls for some trees: every node in preorder, and at each the registrations of its kind
in the order they were made. -/
def calls (rs : List Registration) (ns : List Node) : List (Registration × Node) :=
  (Node.preorderOf ns).flatMap fun n => (rs.filter (fun r => r.kind == n.kind)).map fun r => (r, n)

section

variable {m : Type → Type} [Monad m]

def addCall (call : Registration → Node → m (List Finding)) (found : List Finding)
    (x : Registration × Node) : m (List Finding) := do
  return found ++ (← call x.1 x.2)

/-- **Draining a stack visits its trees in preorder.** The stack always holds what is left of
the preorder: the node on top, then what is below it, then the rest of the stack. -/
theorem drain_eq_foldlM (visit : List Finding → Node → m (List Finding)) (found : List Finding)
    (stack : List Node) : drain visit found stack = (Node.preorderOf stack).foldlM visit found := by
  induction found, stack using drain.induct with
  | case1 found => simp [drain]
  | case2 found n stack ih =>
    rw [drain, Node.preorderOf_cons, List.foldlM_cons]
    congr 1
    funext found
    simpa only [List.unattach_reverse, List.unattach_attach, push_reverse,
      Node.preorderOf_append] using ih found

variable [LawfulMonad m]

theorem foldlM_visit (call : Registration → Node → m (List Finding)) (program : Program)
    (rs : List Registration) : ∀ (ns : List Node) (found : List Finding),
    ns.foldlM ((ofRegistrations program rs).visit call) found =
      (ns.flatMap fun n => (rs.filter (fun r => r.kind == n.kind)).map fun r => (r, n)).foldlM
        (addCall call) found
  | [], _ => rfl
  | n :: ns, found => by
    rw [List.foldlM_cons, List.flatMap_cons, List.foldlM_append, List.foldlM_map, visit,
      attachedTo_ofRegistrations]
    congr 1
    funext found
    exact foldlM_visit call program rs ns found

/-- **A walk makes the calls for the statements of a file, in their order**, whatever effects
calls have. -/
theorem walk_eq (call : Registration → Node → m (List Finding)) (program : Program)
    (rs : List Registration) (file : SourceFile) :
    (ofRegistrations program rs).walk call file =
      if file.isDeclaration then pure []
      else do
        let found ← (calls rs file.statements).foldlM (addCall call) []
        return found.mergeSort findingLe := by
  rw [walk, push_reverse, List.append_nil, drain_eq_foldlM, foldlM_visit]
  rfl

end

/-! ## Calls that may fail -/

theorem call_of_ok {program : Program} {file : SourceFile} {r : Registration} {n : Node}
    {reports : List Report} (h : r.handler ⟨program, file, r.rule⟩ n = .ok reports) :
    call program file r n =
      .ok (reports.map fun report => ⟨r.rule, file.path, .error, report⟩) := by
  rw [call, h]
  rfl

theorem call_of_error {program : Program} {file : SourceFile} {r : Registration} {n : Node}
    {d : Defect} (h : r.handler ⟨program, file, r.rule⟩ n = .error d) :
    call program file r n = .error d := by
  rw [call, h]
  rfl

theorem foldlM_addCall_ok (call : Registration → Node → Except Defect (List Finding))
    (g : Registration × Node → List Finding) : ∀ (xs : List (Registration × Node))
    (found : List Finding), (∀ x ∈ xs, call x.1 x.2 = .ok (g x)) →
    xs.foldlM (addCall call) found = .ok (found ++ xs.flatMap g)
  | [], found, _ => by simp; rfl
  | x :: xs, found, h => by
    have hx : addCall call found x = .ok (found ++ g x) := by
      rw [addCall, h x List.mem_cons_self]
      rfl
    rw [List.foldlM_cons, hx, List.flatMap_cons, ← List.append_assoc]
    exact foldlM_addCall_ok call g xs (found ++ g x) fun y hy => h y (List.mem_cons_of_mem x hy)

/-! ## Calls that are written down -/

abbrev Recording := ExceptT Defect (StateM (List (Registration × Node)))

def recorded (call : Registration → Node → Except Defect (List Finding)) (r : Registration)
    (n : Node) : Recording (List Finding) :=
  fun log => (call r n, log ++ [(r, n)])

/-- The result of a walk, and the calls that it made. -/
def recordedWalk (c : Checker) (file : SourceFile) :
    Except Defect (List Finding) × List (Registration × Node) :=
  (c.walk (recorded (call c.program file)) file).run.run []

theorem run_bind {α β : Type} (x : Recording α) (f : α → Recording β)
    (log : List (Registration × Node)) :
    (x >>= f).run.run log = match x.run.run log with
      | (.ok a, log) => (f a).run.run log
      | (.error d, log) => (.error d, log) := by
  rw [ExceptT.run_bind, StateT.run_bind]
  cases h : x.run.run log with
  | mk result log => cases result <;> rfl

theorem run_addCall_recorded (call : Registration → Node → Except Defect (List Finding))
    (found : List Finding) (x : Registration × Node) (log : List (Registration × Node)) :
    (addCall (recorded call) found x).run.run log = (addCall call found x, log ++ [x]) := by
  have hx : (recorded call x.1 x.2).run.run log = (call x.1 x.2, log ++ [x]) := rfl
  rw [addCall, addCall, run_bind, hx]
  cases call x.1 x.2 <;> rfl

theorem run_foldlM_fst (call : Registration → Node → Except Defect (List Finding)) :
    ∀ (xs : List (Registration × Node)) (found : List Finding) (log : List (Registration × Node)),
    ((xs.foldlM (addCall (recorded call)) found).run.run log).1 = xs.foldlM (addCall call) found
  | [], _, _ => rfl
  | x :: xs, found, log => by
    rw [List.foldlM_cons, List.foldlM_cons, run_bind, run_addCall_recorded]
    cases h : addCall call found x with
    | error d => rfl
    | ok more => exact run_foldlM_fst call xs more (log ++ [x])

theorem run_foldlM_snd_ok (call : Registration → Node → Except Defect (List Finding)) :
    ∀ (xs rest : List (Registration × Node)) (found : List Finding)
      (log : List (Registration × Node)), (∀ x ∈ xs, ∃ more, call x.1 x.2 = .ok more) →
    ∃ found', ((xs ++ rest).foldlM (addCall (recorded call)) found).run.run log =
      (rest.foldlM (addCall (recorded call)) found').run.run (log ++ xs)
  | [], rest, found, log, _ => ⟨found, by simp⟩
  | x :: xs, rest, found, log, h => by
    obtain ⟨more, hx⟩ := h x List.mem_cons_self
    have hadd : addCall call found x = .ok (found ++ more) := by
      rw [addCall, hx]
      rfl
    obtain ⟨found', ih⟩ := run_foldlM_snd_ok call xs rest (found ++ more) (log ++ [x])
      fun y hy => h y (List.mem_cons_of_mem x hy)
    refine ⟨found', ?_⟩
    rw [List.cons_append, List.foldlM_cons, run_bind, run_addCall_recorded, hadd]
    simpa using ih

theorem recordedWalk_eq (program : Program) (rs : List Registration) (file : SourceFile)
    (h : file.isDeclaration = false) :
    let run := ((calls rs file.statements).foldlM (addCall (recorded (call program file)))
      []).run.run []
    (ofRegistrations program rs).recordedWalk file =
      (run.1.map fun found => found.mergeSort findingLe, run.2) := by
  rw [recordedWalk, walk_eq, ofRegistrations_program, if_neg (by simp [h]), run_bind]
  split <;> rename_i heq <;> simp only [heq] <;> rfl

/-! ## The order of findings -/

theorem findingLe_trans (a b c : Finding) (hab : findingLe a b = true) (hbc : findingLe b c = true) :
    findingLe a c = true := by
  simp only [findingLe, Bool.or_eq_true, Bool.and_eq_true, decide_eq_true_eq, beq_iff_eq,
    UInt32.lt_iff_toNat_lt, UInt32.le_iff_toNat_le, ← UInt32.toNat_inj] at *
  omega

theorem findingLe_total (a b : Finding) : (findingLe a b || findingLe b a) = true := by
  simp only [findingLe, Bool.or_eq_true, Bool.and_eq_true, decide_eq_true_eq, beq_iff_eq,
    UInt32.lt_iff_toNat_lt, UInt32.le_iff_toNat_le, ← UInt32.toNat_inj]
  omega

theorem isStableSort_findings (found : List Finding) :
    IsStableSort findingLe (found.mergeSort findingLe) found :=
  isStableSort_mergeSort findingLe_trans findingLe_total found

/-! ## Whole walks -/

theorem recordedWalk_fst (program : Program) (rs : List Registration) (file : SourceFile) :
    ((ofRegistrations program rs).recordedWalk file).1 =
      ((ofRegistrations program rs).execute file).1 := by
  rw [execute, findings, walk_eq, ofRegistrations_program]
  cases h : file.isDeclaration with
  | true =>
    rw [recordedWalk, walk_eq, if_pos h]
    rfl
  | false =>
    rw [recordedWalk_eq program rs file h]
    simp only [run_foldlM_fst]
    cases (calls rs file.statements).foldlM (addCall (call program file)) [] <;> rfl

theorem recordedWalk_of_ok (program : Program) (rs : List Registration) (file : SourceFile)
    (h : file.isDeclaration = false) (g : Registration × Node → List Finding)
    (hok : ∀ x ∈ calls rs file.statements, call program file x.1 x.2 = .ok (g x)) :
    (ofRegistrations program rs).recordedWalk file =
      (.ok (((calls rs file.statements).flatMap g).mergeSort findingLe),
        calls rs file.statements) := by
  obtain ⟨found, hrun⟩ := run_foldlM_snd_ok (call program file) (calls rs file.statements) [] [] []
    fun x hx => ⟨g x, hok x hx⟩
  rw [List.append_nil, List.nil_append] at hrun
  have hlog : (((calls rs file.statements).foldlM (addCall (recorded (call program file)))
      []).run.run []).2 = calls rs file.statements := by
    rw [hrun]
    rfl
  rw [recordedWalk_eq program rs file h]
  simp only [hlog, run_foldlM_fst, foldlM_addCall_ok (call program file) g _ [] hok]
  rfl

theorem recordedWalk_of_error (program : Program) (rs : List Registration) (file : SourceFile)
    (h : file.isDeclaration = false) {before after : List (Registration × Node)} {r : Registration}
    {n : Node} {d : Defect} (hcalls : calls rs file.statements = before ++ (r, n) :: after)
    (hok : ∀ x ∈ before, ∃ more, call program file x.1 x.2 = .ok more)
    (herr : call program file r n = .error d) :
    (ofRegistrations program rs).recordedWalk file = (.error d, before ++ [(r, n)]) := by
  obtain ⟨found, hrun⟩ := run_foldlM_snd_ok (call program file) before ((r, n) :: after) [] [] hok
  have hadd : addCall (call program file) found (r, n) = .error d := by
    rw [addCall, herr]
    rfl
  rw [recordedWalk_eq program rs file h, hcalls]
  simp only [hrun, List.foldlM_cons, run_bind, run_addCall_recorded, hadd, List.nil_append]
  rfl

/-- **A checker walks a file once, in preorder.** For handlers attached in any number and order:
- the walk makes the calls for the statements of the file, one after the other, whatever the
  effects of a call are;
- in a declaration file no handler is called, and nothing is found;
- when no handler fails, all are called, and what they report, each under the rule it was attached
  by, is sorted by its place, stably;
- the first handler that fails is the last one called, and its defect is the result. -/
theorem execute_walks_preorder (program : Program) (rs : List Registration) (file : SourceFile) :
    ∃ c, rs.foldlM (fun c r => c.on r.kind r.rule r.handler) (new program) = .ok c ∧
      (∀ (m : Type → Type) [Monad m] [LawfulMonad m] (call : Registration → Node → m (List Finding)),
        c.walk call file =
          if file.isDeclaration then pure []
          else do
            let found ← (calls rs file.statements).foldlM (addCall call) []
            return found.mergeSort findingLe) ∧
      (c.recordedWalk file).1 = (c.execute file).1 ∧
      (file.isDeclaration = true →
        (c.recordedWalk file).2 = [] ∧ (c.execute file).1 = .ok []) ∧
      (file.isDeclaration = false →
        (∀ g : Registration × Node → List Report,
          (∀ x ∈ calls rs file.statements,
            x.1.handler ⟨program, file, x.1.rule⟩ x.2 = .ok (g x)) →
          (c.recordedWalk file).2 = calls rs file.statements ∧
          ∃ found, (c.execute file).1 = .ok found ∧
            IsStableSort findingLe found ((calls rs file.statements).flatMap fun x =>
              (g x).map fun report => ⟨x.1.rule, file.path, .error, report⟩)) ∧
        (∀ before r n after d, calls rs file.statements = before ++ (r, n) :: after →
          (∀ x ∈ before, ∃ reports, x.1.handler ⟨program, file, x.1.rule⟩ x.2 = .ok reports) →
          r.handler ⟨program, file, r.rule⟩ n = .error d →
          (c.recordedWalk file).2 = before ++ [(r, n)] ∧ (c.execute file).1 = .error d)) := by
  have hfst := recordedWalk_fst program rs file
  refine ⟨ofRegistrations program rs, foldlM_on rs (new program) rfl,
    fun m _ _ call => walk_eq call program rs file, hfst, fun h => ?_, fun h => ⟨?_, ?_⟩⟩
  · have : (ofRegistrations program rs).recordedWalk file = (.ok [], []) := by
      rw [recordedWalk, walk_eq, if_pos h]
      rfl
    rw [← hfst, this]
    exact ⟨rfl, rfl⟩
  · intro g hok
    rw [← hfst, recordedWalk_of_ok program rs file h _ fun x hx => call_of_ok (hok x hx)]
    exact ⟨rfl, _, rfl, isStableSort_findings _⟩
  · intro before r n after d hcalls hok herr
    have hbefore : ∀ x ∈ before, ∃ more, call program file x.1 x.2 = .ok more := by
      intro x hx
      obtain ⟨reports, hreports⟩ := hok x hx
      exact ⟨_, call_of_ok hreports⟩
    rw [← hfst, recordedWalk_of_error program rs file h hcalls hbefore (call_of_error herr)]
    exact ⟨rfl, rfl⟩

end Checker
end Conformance
