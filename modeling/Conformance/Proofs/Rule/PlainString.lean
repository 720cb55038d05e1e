import Conformance.Proofs.Defects
import Conformance.Proofs.Findings
import Conformance.Proofs.Isolation
import Conformance.Proofs.Tree.Places
import Conformance.Proofs.Tree.Union
/-!
# Which values are plain strings in a sink

A value comes to a place: the right side of an assignment to what is assigned to, an argument to
its parameter, an initial value to its name (`Brings`).  The place asks for a type, and a value
that is certain to be a string must not come to one that asks for a trusted type
(`IsPlainString`).

The rule for a trusted type reports these values, each place of a tree once and no other.  Its four
handlers are one by one shown to report the children that one question picks (`picks`), so the walk
gathers what the question picks in the whole tree.
-/
namespace Conformance
namespace TrustedSink

/-! ## Values and the places they come to -/

/-- Child `i` of a node is a value that comes to a place, which is declared with this type or
none. -/
inductive Brings (n : Node) : Nat → Option TypeInfo → Prop where
  | assignment {target : Node} : n.kind = .binaryExpression → n.operator = some "=" →
    n.children[0]? = some target → Brings n 1 target.type
  | argument {i : Nat} : n.kind = .callExpression ∨ n.kind = .newExpression → 1 ≤ i →
    Brings n i none
  | initializer {name : Node} : n.kind = .variableDeclaration → n.children[0]? = some name →
    Brings n 1 name.type

/-- A value of this type may be of the trusted type. -/
def MayBeTrusted (k : TrustedKind) (t : TypeInfo) : Prop :=
  ∃ u, t.MayBe u ∧ k.sink.matchesType u = true

/-- At this place of some trees stands a value that comes to a place that asks for the trusted
type, by what the context expects or else as declared, and that is a string and cannot be of the
trusted type. -/
def IsPlainString (k : TrustedKind) (ns : List Node) (place : List Nat) (v : Node) : Prop :=
  ∃ parent n i declared, place = parent ++ [i] ∧ Node.at? ns parent = some n ∧
    n.children[i]? = some v ∧ Brings n i declared ∧
    (∃ expected, v.contextualType.or declared = some expected ∧ MayBeTrusted k expected) ∧
    ∃ actual, v.type = some actual ∧ actual.IsString ∧ ¬MayBeTrusted k actual

/-- The type with which the place is declared that child `i` of a node comes to. -/
def declared? (n : Node) (i : Nat) : Option (Option TypeInfo) :=
  match n.kind with
  | .binaryExpression =>
    if n.operator = some "=" ∧ i = 1 then n.children[0]?.map (·.type) else none
  | .callExpression => if 1 ≤ i then some none else none
  | .newExpression => if 1 ≤ i then some none else none
  | .variableDeclaration => if i = 1 then n.children[0]?.map (·.type) else none
  | _ => none

theorem declared?_eq_some {n : Node} {i : Nat} {declared : Option TypeInfo} :
    declared? n i = some declared ↔ Brings n i declared := by
  constructor
  · intro h
    unfold declared? at h
    split at h
    · rename_i hkind
      split at h
      · rename_i hcond
        obtain ⟨hop, rfl⟩ := hcond
        obtain ⟨target, htarget, rfl⟩ := Option.map_eq_some_iff.1 h
        exact .assignment hkind hop htarget
      · cases h
    · rename_i hkind
      split at h
      · rename_i hi
        cases h
        exact .argument (.inl hkind) hi
      · cases h
    · rename_i hkind
      split at h
      · rename_i hi
        cases h
        exact .argument (.inr hkind) hi
      · cases h
    · rename_i hkind
      split at h
      · rename_i hi
        subst hi
        obtain ⟨name, hname, rfl⟩ := Option.map_eq_some_iff.1 h
        exact .initializer hkind hname
      · cases h
    · cases h
  · rintro (⟨hkind, hop, htarget⟩ | ⟨hkind | hkind, hi⟩ | ⟨hkind, hname⟩)
    · simp [declared?, hkind, hop, htarget]
    · simp [declared?, hkind, hi]
    · simp [declared?, hkind, hi]
    · simp [declared?, hkind, hname]

def picks (k : TrustedKind) (n : Node) (i : Nat) (v : Node) : Bool :=
  (declared? n i).any fun declared => isViolation k declared v

theorem isViolation_eq_true {k : TrustedKind} {declared : Option TypeInfo} {v : Node} :
    isViolation k declared v = true ↔
      (∃ expected, v.contextualType.or declared = some expected ∧ MayBeTrusted k expected) ∧
      ∃ actual, v.type = some actual ∧ actual.IsString ∧ ¬MayBeTrusted k actual := by
  simp only [MayBeTrusted, ← Sink.appearsIn_eq_true, ← TypeInfo.isStringLike_eq_true]
  unfold isViolation
  cases v.contextualType.or declared with
  | none => simp
  | some expected =>
    cases v.type with
    | none => simp
    | some actual => simp [and_assoc]

theorem mem_childrenIn_picks {k : TrustedKind} {ns : List Node} {place : List Nat} {v : Node} :
    (place, v) ∈ Node.childrenIn (picks k) ns ↔ IsPlainString k ns place v := by
  rw [Node.mem_childrenIn, IsPlainString]
  refine exists_congr fun parent => exists_congr fun n => exists_congr fun i => ?_
  rw [picks, Option.any_eq_true]
  constructor
  · rintro ⟨hplace, hn, hv, declared, hdeclared, hviolation⟩
    exact ⟨declared, hplace, hn, hv, declared?_eq_some.1 hdeclared,
      isViolation_eq_true.1 hviolation⟩
  · rintro ⟨declared, hplace, hn, hv, hbrings, hviolation⟩
    exact ⟨hplace, hn, hv, declared, declared?_eq_some.2 hbrings,
      isViolation_eq_true.2 hviolation⟩

/-! ## Handlers -/

section

variable (k : TrustedKind) {isExempt : ProjectPath → Bool} {site : Site}

def reportOn (v : Node) : Report := .on v (message k) []

def picked (n : Node) : List Node :=
  (n.children.zipIdx.filter fun c => picks k n c.2 c.1).map Prod.fst

theorem checkValue_eq_filter (h : isExempt site.file.path = false) (declared : Option TypeInfo)
    (v : Node) : checkValue k isExempt site declared v =
      ([v].filter (isViolation k declared)).map (reportOn k) := by
  unfold checkValue
  cases hv : isViolation k declared v <;> simp [hv, h, reportOn]

theorem flatMap_checkValue (h : isExempt site.file.path = false) (declared : Option TypeInfo) :
    ∀ vs : List Node, vs.flatMap (checkValue k isExempt site declared) =
      (vs.filter (isViolation k declared)).map (reportOn k)
  | [] => rfl
  | v :: vs => by
    rw [List.flatMap_cons, flatMap_checkValue h declared vs, checkValue_eq_filter k h,
      ← List.map_append, ← List.filter_append, List.singleton_append]

theorem picked_eq_second {n : Node} {declared : Option TypeInfo}
    (h : ∀ i v, picks k n i v = (i == 1 && isViolation k declared v)) :
    picked k n = n.children[1]?.toList.filter (isViolation k declared) := by
  rw [picked]
  simp only [h]
  exact Node.filter_zipIdx_eq _ _ 0 1

theorem reports_checkAssignment (h : isExempt site.file.path = false) {n : Node}
    (hkind : n.kind = .binaryExpression) :
    (checkAssignment k isExempt).reports site n = (picked k n).map (reportOn k) := by
  by_cases hop : n.operator = some "="
  · rcases hc : n.children with _ | ⟨target, rest⟩
    -- where the handler fails there is no child to pick, so both sides are empty
    · simp [Handler.reports, checkAssignment, Site.child, Node.child?, picked, hop, hc]
    · have hpicks : ∀ i v, picks k n i v = (i == 1 && isViolation k target.type v) := by
        intro i v
        by_cases hi : i = 1 <;> simp [picks, declared?, hkind, hop, hc, hi]
      rw [picked_eq_second k hpicks, hc]
      rcases rest with _ | ⟨value, rest⟩
      · simp [Handler.reports, checkAssignment, Site.child, Node.child?, hop, hc]
      · simp [Handler.reports, checkAssignment, Site.child, Node.child?, hop, hc,
          checkValue_eq_filter k h]
  · simp [Handler.reports, checkAssignment, picked, picks, declared?, hkind, hop]

theorem reports_checkArguments (h : isExempt site.file.path = false) {n : Node}
    (hkind : n.kind = .callExpression ∨ n.kind = .newExpression) :
    (checkArguments k isExempt).reports site n = (picked k n).map (reportOn k) := by
  have hpicks : ∀ i v, picks k n i v = (decide (1 ≤ i) && isViolation k none v) := by
    intro i v
    rcases hkind with hkind | hkind <;> by_cases hi : 1 ≤ i <;> simp [picks, declared?, hkind, hi]
  rw [picked]
  simp only [hpicks]
  rw [Node.filter_zipIdx_arguments]
  rcases hc : n.children with _ | ⟨callee, rest⟩
  · simp [Handler.reports, checkArguments, Site.child, Node.child?, Node.arguments, hc]
  · simp [Handler.reports, checkArguments, Site.child, Node.child?, hc, flatMap_checkValue k h]

theorem reports_checkInitializer (h : isExempt site.file.path = false) {n : Node}
    (hkind : n.kind = .variableDeclaration) :
    (checkInitializer k isExempt).reports site n = (picked k n).map (reportOn k) := by
  rcases hc : n.children with _ | ⟨name, rest⟩
  · simp [Handler.reports, checkInitializer, Site.child, Node.child?, picked, hc]
  · have hpicks : ∀ i v, picks k n i v = (i == 1 && isViolation k name.type v) := by
      intro i v
      by_cases hi : i = 1 <;> simp [picks, declared?, hkind, hc, hi]
    rw [picked_eq_second k hpicks, hc]
    rcases rest with _ | ⟨value, rest⟩
    · simp [Handler.reports, checkInitializer, Site.child, Node.child?, hc]
    · simp [Handler.reports, checkInitializer, Site.child, Node.child?, hc,
        checkValue_eq_filter k h]

end

/-- **At each node the rule reports the children that are picked.** -/
theorem reportsAt_eq (k : TrustedKind) {isExempt : ProjectPath → Bool} (site : Site)
    (h : isExempt site.file.path = false) (n : Node) :
    (Rule.trustedSink k).reportsAt isExempt site n = (picked k n).map (reportOn k) := by
  unfold Rule.reportsAt Rule.exemptHandlers handlers
  cases hkind : n.kind with
  | binaryExpression => simp [reports_checkAssignment k h hkind]
  | callExpression => simp [reports_checkArguments k h (.inl hkind)]
  | newExpression => simp [reports_checkArguments k h (.inr hkind)]
  | variableDeclaration => simp [reports_checkInitializer k h hkind]
  | _ => simp [picked, picks, declared?, hkind]

/-! ## Whole trees -/

def findingOn (k : TrustedKind) (file : SourceFile) (v : Node) : Finding :=
  ⟨(Rule.trustedSink k).id, file.path, .error, ⟨v.pos, v.stop, message k, []⟩⟩

theorem flatMap_findingsAt (k : TrustedKind) {exemptions : ExemptionList} (program : Program)
    {file : SourceFile} (h : exemptions.isExempt (Rule.trustedSink k).name file.path = false) :
    (Node.preorderOf file.statements).flatMap
        ((Rule.trustedSink k).findingsAt exemptions program file) =
      (Node.childrenIn (picks k) file.statements).map fun x => findingOn k file x.2 := by
  rw [Node.map_childrenIn]
  congr 1
  funext n
  have hreports := reportsAt_eq k ⟨program, file, (Rule.trustedSink k).id⟩ h n
  rw [Rule.findingsAt, hreports, List.map_map]
  rfl

/-- **The rule for a trusted type reports the plain strings in sinks, each once and no others.** In
a file that is no declaration file and not exempt from the rule:
- the walk comes to its end with this rule alone when no node lacks a part that the rule asks for;
- whatever rules walk with it, when the walk comes to its end, what it found under this rule are
  findings on the places where a plain string is, one for each. -/
theorem findings_plainStrings (k : TrustedKind) (program : Program) (exemptions : ExemptionList)
    (file : SourceFile) (hdecl : file.isDeclaration = false)
    (hexempt : exemptions.isExempt (Rule.trustedSink k).name file.path = false) :
    ((∃ found, (checkerOf program [.trustedSink k] exemptions).findings file = .ok found) ↔
      ∀ n ∈ Node.preorderOf file.statements, (Rule.trustedSink k).isLacking n = false) ∧
    ∃ values : List (List Nat × Node), (values.map Prod.fst).Nodup ∧
      (∀ place v, (place, v) ∈ values ↔ IsPlainString k file.statements place v) ∧
      ∀ rules : List Rule, rules.Nodup → .trustedSink k ∈ rules → ∀ found,
        (checkerOf program rules exemptions).findings file = .ok found →
        (found.filter fun f => decide (f.rule = (Rule.trustedSink k).id)).Perm
          (values.map fun x => findingOn k file x.2) := by
  refine ⟨?_, Node.childrenIn (picks k) file.statements, Node.nodup_childrenIn _ _,
    fun place v => mem_childrenIn_picks, ?_⟩
  · rw [Checker.exists_findings hdecl]
    simp only [List.forall_mem_singleton]
  · intro rules hrules hk found hfound
    have hperm := (Checker.findings_checkerOf hdecl hfound).perm.filter
      fun f => decide (f.rule = (Rule.trustedSink k).id)
    rwa [findingsIn_filter hrules hk, flatMap_findingsAt k program hexempt] at hperm

/-! A string that is assigned to a place for trusted markup or nothing, and the assignment is itself
an argument for trusted markup. -/

def stringType : TypeInfo := ⟨"string", .string, [], []⟩

def assignedText : Node := ⟨.stringLiteral, 6, 9, some "a", none, some stringType, none, []⟩

def assigningArgument : Node :=
  ⟨.binaryExpression, 2, 9, none, some "=", some stringType, some (trustedType .html),
    [⟨.identifier, 2, 3, some "x", none,
        some ⟨"T", .union, [], [⟨"undefined", .object, [], []⟩, trustedType .html]⟩, none, []⟩,
      assignedText]⟩

def nestedFile : SourceFile :=
  ⟨"a.ts", false, "f(x = 'a')", [], none,
    [⟨.callExpression, 0, 10, none, none, none, none,
      [⟨.identifier, 0, 1, some "f", none, none, none, []⟩, assigningArgument]⟩]⟩

theorem isString_stringType : stringType.IsString := .kind rfl

theorem not_mayBeTrusted_stringType (k : TrustedKind) : ¬MayBeTrusted k stringType := by
  rintro ⟨u, ⟨-⟩ | ⟨hunion, -, -⟩, htrusted⟩
  · cases htrusted
  · cases hunion

theorem mayBeTrusted_trustedType : MayBeTrusted .html (trustedType .html) :=
  ⟨_, .itself (by decide), by decide +kernel⟩

theorem findings_plainStrings_nested : ∃ (found : List Finding) (values : List (List Nat × Node)),
    (checkerOf ⟨[nestedFile], []⟩ [.trustedSink .html] .empty).findings nestedFile = .ok found ∧
    ([0, 1], assigningArgument) ∈ values ∧ ([0, 1, 1], assignedText) ∈ values ∧
    (found.filter fun f => decide (f.rule = (Rule.trustedSink .html).id)).Perm
      (values.map fun x => findingOn .html nestedFile x.2) := by
  obtain ⟨hends, values, -, hvalues, hfound⟩ := findings_plainStrings .html ⟨[nestedFile], []⟩ .empty
    nestedFile (by decide +kernel) (by decide +kernel)
  obtain ⟨found, hrun⟩ := hends.2 (by decide +kernel)
  refine ⟨found, values, hrun, (hvalues _ _).2 ?_, (hvalues _ _).2 ?_,
    hfound _ (List.nodup_singleton _) List.mem_cons_self found hrun⟩
  · exact ⟨[0], _, 1, none, rfl, rfl, rfl, .argument (.inl rfl) (Nat.le_refl 1),
      ⟨_, rfl, mayBeTrusted_trustedType⟩, _, rfl, isString_stringType,
      not_mayBeTrusted_stringType .html⟩
  · refine ⟨[0, 1], _, 1, _, rfl, rfl, rfl, .assignment rfl rfl rfl, ⟨_, rfl, ?_⟩, _, rfl,
      isString_stringType, not_mayBeTrusted_stringType .html⟩
    exact ⟨trustedType .html, .member rfl (List.mem_cons_of_mem _ List.mem_cons_self)
      (.itself (by decide)), by decide +kernel⟩

end TrustedSink
end Conformance
