import Conformance.Proofs.Findings
import Conformance.Proofs.Tree.Places
import Conformance.Proofs.Tree.Union
import Mathlib.Data.List.DropRight
/-!
# What the rules without a sink report

Three rules ask nothing about sinks.  Each is about one kind of node, and at a node of that kind
there is at most one thing to report: a comparison with NaN itself, the string that a set is made
from, or the call whose promise a statement drops.  So what a rule should report is said of the
places of a tree (`IsComparison`, `IsSetSource`, `IsDropped`), in words of the tree and of the types
alone, and a rule reports just these places, each once (`Rule.ReportsExactly`).
-/
namespace Conformance

/-- The report is on what a node covers, and the changes it suggests are of just that. -/
structure Report.Covers (r : Report) (n : Node) : Prop where
  start_eq : r.start = n.pos
  stop_eq : r.stop = n.stop
  changes : ∀ fix ∈ r.fixes, ∀ change ∈ fix.changes, change.start = r.start ∧ change.stop = r.stop

theorem Report.covers_on {n : Node} {fixes : List Fix} (message : String)
    (h : ∀ fix ∈ fixes, ∃ text, fix = Fix.replace n.pos n.stop text) :
    (Report.on n message fixes).Covers n where
  start_eq := rfl
  stop_eq := rfl
  changes := by
    intro fix hfix change hchange
    obtain ⟨text, rfl⟩ := h fix hfix
    obtain rfl := List.mem_singleton.1 hchange
    exact ⟨rfl, rfl⟩

namespace Rule

/-- A rule reports what is wrong at the places of a file, each place once and nothing else:
- the walk comes to its end with this rule alone when no node lacks a part that the rule asks for;
- a report on a node covers the node;
- whatever rules walk with it, when the walk comes to its end, what it found under this rule are
  findings on the places where something is wrong, one for each. -/
structure ReportsExactly (r : Rule) (program : Program) (exemptions : ExemptionList)
    (file : SourceFile) (IsWrong : List Nat → Node → Prop) (reportOn : Node → Report) : Prop where
  ends : (∃ found, (checkerOf program [r] exemptions).findings file = .ok found) ↔
    ∀ n ∈ Node.preorderOf file.statements, r.isLacking n = false
  covers : ∀ v, (reportOn v).Covers v
  each_once : ∃ values : List (List Nat × Node), (values.map Prod.fst).Nodup ∧
    (∀ place v, (place, v) ∈ values ↔ IsWrong place v) ∧
    ∀ rules : List Rule, rules.Nodup → r ∈ rules → ∀ found,
      (checkerOf program rules exemptions).findings file = .ok found →
      (found.filter fun f => decide (f.rule = r.id)).Perm
        (values.map fun x => r.finding file (reportOn x.2))

section

variable {r : Rule} {program : Program} {exemptions : ExemptionList} {file : SourceFile}

/-- A rule that reports at each node what there is at the places below it reports just these
places. -/
theorem reportsExactly_of_places (hdecl : file.isDeclaration = false)
    {IsWrong : List Nat → Node → Prop} {reportOn : Node → Report} {reports : Node → List Report}
    {values : List (List Nat × Node)} (hcovers : ∀ v, (reportOn v).Covers v)
    (hnodup : (values.map Prod.fst).Nodup)
    (hmem : ∀ place v, (place, v) ∈ values ↔ IsWrong place v)
    (hvalues : values.map (fun x => reportOn x.2) =
      (Node.preorderOf file.statements).flatMap reports)
    (hreports : ∀ n,
      r.reportsAt (exemptions.isExempt r.name) ⟨program, file, r.id⟩ n = reports n) :
    r.ReportsExactly program exemptions file IsWrong reportOn where
  ends := by
    rw [Checker.exists_findings hdecl]
    simp only [List.forall_mem_singleton]
  covers := hcovers
  each_once := by
    refine ⟨values, hnodup, hmem, fun rules hrules hr found hfound => ?_⟩
    have hperm := (Checker.findings_checkerOf hdecl hfound).perm.filter
      fun f => decide (f.rule = r.id)
    have hfindings : (Node.preorderOf file.statements).flatMap
        (r.findingsAt exemptions program file) =
          values.map fun x => r.finding file (reportOn x.2) := by
      unfold findingsAt
      simp only [hreports]
      rw [← List.map_flatMap, ← hvalues, List.map_map]
      rfl
    rwa [findingsIn_filter hrules hr, hfindings] at hperm

theorem reportsAt_of_handler {isExempt : ProjectPath → Bool} {kind : NodeKind} {h : Handler}
    {site : Site} {n : Node} {reports : List Report} (hr : r.exemptHandlers isExempt = [(kind, h)])
    (hkind : n.kind = kind → h.reports site n = reports) (hother : n.kind ≠ kind → reports = []) :
    r.reportsAt isExempt site n = reports := by
  rw [reportsAt, hr]
  by_cases hn : n.kind = kind
  · simp [hn, hkind]
  · simp [Ne.symm hn, hother hn]

end

end Rule

structure Node.IsNamed (n : Node) (name : String) : Prop where
  kind_eq : n.kind = .identifier
  text_eq : n.text = some name

theorem Node.isIdentifier_eq_true {n : Node} {name : String} :
    n.isIdentifier name = true ↔ n.IsNamed name := by
  rw [isIdentifier, Bool.and_eq_true, beq_iff_eq, beq_iff_eq]
  exact ⟨fun h => ⟨h.1, h.2⟩, fun h => ⟨h.1, h.2⟩⟩

/-! ## Comparisons with NaN -/

namespace NanComparison

/-- At this place of some trees stands a comparison for equality of two sides, one of which is
NaN. -/
def IsComparison (ns : List Node) (place : List Nat) (v : Node) : Prop :=
  Node.at? ns place = some v ∧ v.kind = .binaryExpression ∧
    v.operator ∈ [some "==", some "===", some "!=", some "!=="] ∧
    ∃ left right, v.children[0]? = some left ∧ v.children[1]? = some right ∧
      (left.IsNamed "NaN" ∨ right.IsNamed "NaN")

def other? (n : Node) : Option Node :=
  (n.child? 0).bind fun left => (n.child? 1).bind fun right => otherSide? left right

def picks (n : Node) : Bool :=
  n.kind == .binaryExpression && (n.operator.bind negation?).isSome && (other? n).isSome

def reportOn (site : Site) (n : Node) : Report :=
  report site n ((other? n).getD n) ((n.operator.bind negation?).getD false)

theorem covers_reportOn (site : Site) (n : Node) : (reportOn site n).Covers n :=
  Report.covers_on _ (List.forall_mem_singleton.2 ⟨_, rfl⟩)

theorem isSome_otherSide? {left right : Node} :
    (otherSide? left right).isSome = true ↔ left.IsNamed "NaN" ∨ right.IsNamed "NaN" := by
  rw [← Node.isIdentifier_eq_true, ← Node.isIdentifier_eq_true, otherSide?]
  cases right.isIdentifier "NaN" <;> cases left.isIdentifier "NaN" <;> simp

theorem isSome_other? {n : Node} : (other? n).isSome = true ↔
    ∃ left right, n.children[0]? = some left ∧ n.children[1]? = some right ∧
      (left.IsNamed "NaN" ∨ right.IsNamed "NaN") := by
  simp only [other?, Node.child?, Option.isSome_bind, Option.any_eq_true, isSome_otherSide?]
  constructor
  · rintro ⟨left, hleft, right, hright, h⟩
    exact ⟨left, right, hleft, hright, h⟩
  · rintro ⟨left, right, hleft, hright, h⟩
    exact ⟨left, hleft, right, hright, h⟩

theorem isSome_negation? {operator : Option String} : (operator.bind negation?).isSome = true ↔
    operator ∈ [some "==", some "===", some "!=", some "!=="] := by
  rw [← not_iff_not, ← negation?_eq_none, Bool.not_eq_true, Option.isSome_eq_false_iff,
    Option.isNone_iff_eq_none]

theorem mem_nodesIn_picks {ns : List Node} {place : List Nat} {v : Node} :
    (place, v) ∈ Node.nodesIn picks ns ↔ IsComparison ns place v := by
  rw [Node.mem_nodesIn, picks, Bool.and_eq_true, Bool.and_eq_true, beq_iff_eq, isSome_negation?,
    isSome_other?, and_assoc]
  rfl

theorem reports_check {isExempt : ProjectPath → Bool} {site : Site}
    (h : isExempt site.file.path = false) {n : Node} (hkind : n.kind = .binaryExpression) :
    (check isExempt).reports site n = ([n].filter picks).map (reportOn site) := by
  unfold Handler.reports check
  cases hop : n.operator.bind negation? with
  | none => simp [picks, hop]
  | some negated =>
    -- where a side is missing the handler fails, and the node is not picked
    rcases hc : n.children with _ | ⟨left, _ | ⟨right, rest⟩⟩
    · simp [Site.child, Node.child?, picks, other?, hc]
    · simp [Site.child, Node.child?, picks, other?, hc]
    · have hother : other? n = otherSide? left right := by simp [other?, Node.child?, hc]
      cases hside : otherSide? left right with
      | none => simp [Site.child, Node.child?, hc, hside, picks, hother]
      | some other =>
        simp [Site.child, Node.child?, hc, hside, h, picks, hkind, hop, reportOn, hother]

theorem reportsAt_eq (isExempt : ProjectPath → Bool) (site : Site)
    (h : isExempt site.file.path = false) (n : Node) :
    Rule.equalsNan.reportsAt isExempt site n = ([n].filter picks).map (reportOn site) :=
  Rule.reportsAt_of_handler rfl (reports_check h) fun hkind => by simp [picks, hkind]

end NanComparison

/-! ## Sets that are made from a string -/

namespace StringSet

/-- At this place of some trees stands the first argument of a new `Set`, and it is a string. -/
def IsSetSource (ns : List Node) (place : List Nat) (v : Node) : Prop :=
  ∃ parent n callee type, place = parent ++ [1] ∧ Node.at? ns parent = some n ∧
    n.kind = .newExpression ∧ n.children[0]? = some callee ∧ callee.IsNamed "Set" ∧
    n.children[1]? = some v ∧ v.type = some type ∧ type.IsString

def picks (n v : Node) : Bool :=
  n.kind == .newExpression && (n.child? 0).any (·.isIdentifier "Set") && v.type.any (·.isStringLike)

theorem covers_report (site : Site) (n : Node) : (report site n).Covers n :=
  Report.covers_on _ (List.forall_mem_singleton.2 ⟨_, rfl⟩)

theorem picks_eq_true {n v : Node} : picks n v = true ↔ n.kind = .newExpression ∧
    (∃ callee, n.children[0]? = some callee ∧ callee.IsNamed "Set") ∧
    ∃ type, v.type = some type ∧ type.IsString := by
  simp only [picks, Node.child?, Bool.and_eq_true, beq_iff_eq, Option.any_eq_true,
    Node.isIdentifier_eq_true, TypeInfo.isStringLike_eq_true, and_assoc]

theorem mem_childrenIn_picks {ns : List Node} {place : List Nat} {v : Node} :
    (place, v) ∈ Node.childrenIn (fun n i v => i == 1 && picks n v) ns ↔ IsSetSource ns place v := by
  rw [Node.mem_childrenIn_at]
  simp only [picks_eq_true]
  constructor
  · rintro ⟨parent, n, hplace, hn, hv, hkind, ⟨callee, hcallee, hset⟩, type, htype, hstring⟩
    exact ⟨parent, n, callee, type, hplace, hn, hkind, hcallee, hset, hv, htype, hstring⟩
  · rintro ⟨parent, n, callee, type, hplace, hn, hkind, hcallee, hset, hv, htype, hstring⟩
    exact ⟨parent, n, hplace, hn, hv, hkind, ⟨callee, hcallee, hset⟩, type, htype, hstring⟩

theorem reports_check {isExempt : ProjectPath → Bool} {site : Site}
    (h : isExempt site.file.path = false) {n : Node} (hkind : n.kind = .newExpression) :
    (check isExempt).reports site n = (n.children[1]?.toList.filter (picks n)).map (report site) := by
  unfold Handler.reports check
  rcases hc : n.children with _ | ⟨callee, _ | ⟨argument, rest⟩⟩
  · simp [Site.child, Node.child?, hc]
  -- a set without arguments is no defect, and nothing is reported on it
  · simp [Site.child, Node.child?, Node.arguments, hc]
  · cases hset : callee.isIdentifier "Set" with
    | false => simp [Site.child, Node.child?, hc, hset, picks]
    | true =>
      cases hstring : argument.type.any (·.isStringLike) with
      | false => simp [Site.child, Node.child?, Node.arguments, hc, hset, picks, hstring]
      | true => simp [Site.child, Node.child?, Node.arguments, hc, hset, picks, hstring, hkind, h]

theorem reportsAt_eq (isExempt : ProjectPath → Bool) (site : Site)
    (h : isExempt site.file.path = false) (n : Node) : Rule.stringSets.reportsAt isExempt site n =
      (n.children[1]?.toList.filter (picks n)).map (report site) :=
  Rule.reportsAt_of_handler rfl (reports_check h) fun hkind => by simp [picks, hkind]

end StringSet

/-! ## Promises that nobody uses -/

namespace DroppedPromise

/-- A path ends in this name: no slash of either kind is in it, and one is in front of it if
anything is. -/
def EndsInName (path name : List Char) : Prop :=
  ∃ dir, path = dir ++ name ∧ (dir = [] ∨ ∃ slash ∈ ['/', '\\'], dir.getLast? = some slash) ∧
    ∀ slash ∈ ['/', '\\'], slash ∉ name

/-- A file of the standard library, by its name: `lib.d.ts`, `lib.es5.d.ts` and so on. -/
def IsStandardFile (file : String) : Prop :=
  ∃ name, EndsInName file.toList name ∧ "lib.".toList <+: name ∧ ".d.ts".toList <:+ name

/-- The promise of the standard library: declared as such in one of its files, or, if nothing
declares the type, displayed as a promise. -/
inductive IsPromise (t : TypeInfo) : Prop where
  | declared {d : TypeDeclaration} : d ∈ t.declarations → d.qualifiedName = "Promise" →
    IsStandardFile d.file → IsPromise t
  | displayed : t.declarations = [] → t.name = "Promise" → IsPromise t
  | applied {rest : String} : t.declarations = [] → t.name = "Promise<" ++ rest → IsPromise t

/-- At this place of some trees stands a call that is all there is of a statement, and what it
returns may be a promise. -/
def IsDropped (ns : List Node) (place : List Nat) (v : Node) : Prop :=
  ∃ parent n type u, place = parent ++ [0] ∧ Node.at? ns parent = some n ∧
    n.kind = .expressionStatement ∧ n.children[0]? = some v ∧ v.kind = .callExpression ∧
    v.type = some type ∧ type.MayBe u ∧ IsPromise u

def isNameChar (c : Char) : Bool := c != '/' && c != '\\'

theorem isNameChar_eq_true {c : Char} : isNameChar c = true ↔ c ∉ ['/', '\\'] := by
  simp [isNameChar]

theorem lastName_eq (path : List Char) : lastName path = path.rtakeWhile isNameChar := rfl

theorem lastName_eq_iff {path name : List Char} :
    lastName path = name ↔ EndsInName path name := by
  rw [lastName_eq]
  constructor
  · rintro rfl
    refine ⟨path.rdropWhile isNameChar, List.rdropWhile_append_rtakeWhile.symm, ?_,
      fun c hc hmem => isNameChar_eq_true.1 (List.mem_rtakeWhile_imp hmem) hc⟩
    by_cases hnil : path.rdropWhile isNameChar = []
    · exact .inl hnil
    · have hlast := List.rdropWhile_last_not isNameChar path hnil
      rw [isNameChar_eq_true, not_not] at hlast
      exact .inr ⟨_, hlast, List.getLast?_eq_some_getLast hnil⟩
  · rintro ⟨dir, rfl, hdir, hname⟩
    have hall : ∀ c ∈ name.reverse, isNameChar c = true := fun c hc =>
      isNameChar_eq_true.2 fun hmem => hname c hmem (List.mem_reverse.1 hc)
    have hstop : dir.reverse.takeWhile isNameChar = [] := by
      rcases hdir with rfl | ⟨slash, hslash, hlast⟩
      · rfl
      · obtain ⟨init, rfl⟩ := List.getLast?_eq_some_iff.1 hlast
        rw [List.reverse_append, List.reverse_singleton, List.singleton_append,
          List.takeWhile_cons_of_neg (by rw [isNameChar_eq_true, not_not]; exact hslash)]
    rw [List.rtakeWhile, List.reverse_append, List.takeWhile_append_of_pos hall, hstop,
      List.append_nil, List.reverse_reverse]

theorem isStandardLibrary_eq_true {file : String} :
    isStandardLibrary file = true ↔ IsStandardFile file := by
  simp only [isStandardLibrary, Bool.and_eq_true, List.isPrefixOf_iff_prefix,
    List.isSuffixOf_iff_suffix, IsStandardFile, ← lastName_eq_iff, exists_eq_left']

/-- The two ends of the name may share a dot. -/
example : isStandardLibrary "C:\\lib\\lib.d.ts" = true ∧
    isStandardLibrary "/lib/lib.es5.d.ts" = true ∧ isStandardLibrary "/lib/promise.d.ts" = false := by
  decide +kernel

theorem isPromise_eq_true {t : TypeInfo} : isPromise t = true ↔ IsPromise t := by
  unfold isPromise
  split
  · rename_i hnone
    rw [List.isEmpty_iff] at hnone
    rw [Bool.or_eq_true, beq_iff_eq, List.isPrefixOf_iff_prefix]
    constructor
    · rintro (hname | ⟨rest, hrest⟩)
      · exact .displayed hnone hname
      · have happlied : t.name = "Promise<" ++ String.ofList rest := by
          apply String.toList_inj.1
          rw [← hrest, String.toList_append, String.toList_ofList (l := rest)]
        exact .applied hnone happlied
    · rintro (⟨hd, -, -⟩ | ⟨-, hname⟩ | ⟨-, hname⟩)
      · rw [hnone] at hd
        cases hd
      · exact .inl hname
      · right
        rw [hname, String.toList_append]
        exact List.prefix_append _ _
  · rename_i hsome
    rw [List.isEmpty_iff] at hsome
    rw [List.any_eq_true]
    simp only [Bool.and_eq_true, beq_iff_eq, isStandardLibrary_eq_true]
    constructor
    · rintro ⟨d, hd, hname, hfile⟩
      exact .declared hd hname hfile
    · rintro (⟨hd, hname, hfile⟩ | ⟨hnone, -⟩ | ⟨hnone, -⟩)
      · exact ⟨_, hd, hname, hfile⟩
      · exact absurd hnone hsome
      · exact absurd hnone hsome

theorem isPromiseLike_eq_true {t : TypeInfo} :
    isPromiseLike t = true ↔ ∃ u, t.MayBe u ∧ IsPromise u := by
  simp only [isPromiseLike, List.any_eq_true, TypeInfo.mem_constituents, isPromise_eq_true]

def picks (n v : Node) : Bool :=
  n.kind == .expressionStatement && v.kind == .callExpression && v.type.any isPromiseLike

def reportOn (v : Node) : Report := .on v message []

theorem covers_reportOn (v : Node) : (reportOn v).Covers v :=
  Report.covers_on _ (List.forall_mem_nil _)

theorem picks_eq_true {n v : Node} : picks n v = true ↔ n.kind = .expressionStatement ∧
    v.kind = .callExpression ∧ ∃ type, v.type = some type ∧ ∃ u, type.MayBe u ∧ IsPromise u := by
  simp only [picks, Bool.and_eq_true, beq_iff_eq, Option.any_eq_true, isPromiseLike_eq_true,
    and_assoc]

theorem mem_childrenIn_picks {ns : List Node} {place : List Nat} {v : Node} :
    (place, v) ∈ Node.childrenIn (fun n i v => i == 0 && picks n v) ns ↔ IsDropped ns place v := by
  rw [Node.mem_childrenIn_at]
  simp only [picks_eq_true]
  constructor
  · rintro ⟨parent, n, hplace, hn, hv, hkind, hcall, type, htype, u, hu, hpromise⟩
    exact ⟨parent, n, type, u, hplace, hn, hkind, hv, hcall, htype, hu, hpromise⟩
  · rintro ⟨parent, n, type, u, hplace, hn, hkind, hv, hcall, htype, hu, hpromise⟩
    exact ⟨parent, n, hplace, hn, hv, hkind, hcall, type, htype, u, hu, hpromise⟩

theorem reports_check {isExempt : ProjectPath → Bool} {site : Site}
    (h : isExempt site.file.path = false) {n : Node} (hkind : n.kind = .expressionStatement) :
    (check isExempt).reports site n = (n.children[0]?.toList.filter (picks n)).map reportOn := by
  unfold Handler.reports check
  rcases hc : n.children with _ | ⟨expression, rest⟩
  · simp [Site.child, Node.child?, hc]
  · by_cases hcall : expression.kind = .callExpression
    · cases hpromise : expression.type.any isPromiseLike with
      | false => simp [Site.child, Node.child?, hc, hcall, hpromise, picks]
      | true => simp [Site.child, Node.child?, hc, hcall, hpromise, picks, hkind, h, reportOn]
    · simp [Site.child, Node.child?, hc, hcall, picks]

theorem reportsAt_eq (isExempt : ProjectPath → Bool) (site : Site)
    (h : isExempt site.file.path = false) (n : Node) : Rule.usePromises.reportsAt isExempt site n =
      (n.children[0]?.toList.filter (picks n)).map reportOn :=
  Rule.reportsAt_of_handler rfl (reports_check h) fun hkind => by simp [picks, hkind]

end DroppedPromise

/-! ## Whole trees -/

/-- **Each of the three rules reports exactly what it is about.** In a file that is no declaration
file and not exempt from them:
- comparisons for equality with NaN, each once;
- the strings that sets are made from, each once;
- the calls whose promise is dropped by a statement, each once. -/
theorem findings_exactly (program : Program) (exemptions : ExemptionList) (file : SourceFile)
    (hdecl : file.isDeclaration = false)
    (hexempt : ∀ r ∈ [Rule.equalsNan, .stringSets, .usePromises],
      exemptions.isExempt r.name file.path = false) :
    Rule.equalsNan.ReportsExactly program exemptions file
      (NanComparison.IsComparison file.statements)
      (NanComparison.reportOn ⟨program, file, Rule.equalsNan.id⟩) ∧
    Rule.stringSets.ReportsExactly program exemptions file
      (StringSet.IsSetSource file.statements)
      (StringSet.report ⟨program, file, Rule.stringSets.id⟩) ∧
    Rule.usePromises.ReportsExactly program exemptions file
      (DroppedPromise.IsDropped file.statements) DroppedPromise.reportOn := by
  refine ⟨?_, ?_, ?_⟩
  · exact Rule.reportsExactly_of_places hdecl (NanComparison.covers_reportOn _)
      (Node.nodup_nodesIn _ _) (fun place v => NanComparison.mem_nodesIn_picks)
      (Node.map_nodesIn _ _ _)
      (NanComparison.reportsAt_eq (exemptions.isExempt Rule.equalsNan.name) _
        (hexempt _ (by decide)))
  · exact Rule.reportsExactly_of_places hdecl (StringSet.covers_report _)
      (Node.nodup_childrenIn _ _) (fun place v => StringSet.mem_childrenIn_picks)
      (Node.map_childrenIn_at _ _ _ _)
      (StringSet.reportsAt_eq (exemptions.isExempt Rule.stringSets.name) _
        (hexempt _ (by decide)))
  · exact Rule.reportsExactly_of_places hdecl DroppedPromise.covers_reportOn
      (Node.nodup_childrenIn _ _) (fun place v => DroppedPromise.mem_childrenIn_picks)
      (Node.map_childrenIn_at _ _ _ _)
      (DroppedPromise.reportsAt_eq (exemptions.isExempt Rule.usePromises.name) _
        (hexempt _ (by decide)))

/-! A call whose promise is dropped, with a comparison inside of a comparison and a set of letters
among its arguments. -/

def nanAt (pos stop : UInt32) : Node := ⟨.identifier, pos, stop, some "NaN", none, none, none, []⟩

def innerComparison : Node :=
  ⟨.binaryExpression, 2, 10, none, some "==", none, none,
    [nanAt 2 5, ⟨.identifier, 9, 10, some "x", none, none, none, []⟩]⟩

def outerComparison : Node :=
  ⟨.binaryExpression, 2, 18, none, some "!==", none, none, [innerComparison, nanAt 15 18]⟩

def setLetters : Node :=
  ⟨.stringLiteral, 28, 32, some "ab", none, some ⟨"'ab'", .stringLiteral, [], []⟩, none, []⟩

def promiseType : TypeInfo :=
  ⟨"Promise<void>", .object, [⟨"/work/node_modules/typescript/lib/lib.es5.d.ts", "Promise"⟩], []⟩

def droppedCall : Node :=
  ⟨.callExpression, 0, 34, none, none, some promiseType, none,
    [⟨.identifier, 0, 1, some "f", none, none, none, []⟩, outerComparison,
      ⟨.newExpression, 20, 33, none, none, none, none,
        [⟨.identifier, 24, 27, some "Set", none, none, none, []⟩, setLetters]⟩]⟩

def crowdedStatement : SourceFile :=
  ⟨"a.ts", false, "f(NaN == x !== NaN, new Set('ab'))", [], none,
    [⟨.expressionStatement, 0, 34, none, none, none, none, [droppedCall]⟩]⟩

theorem isPromise_promiseType : DroppedPromise.IsPromise promiseType :=
  .declared List.mem_cons_self rfl (DroppedPromise.isStandardLibrary_eq_true.1 (by decide +kernel))

theorem findings_exactly_crowded :
    ∃ (found : List Finding) (comparisons sources dropped : List (List Nat × Node)),
      (checkerOf ⟨[crowdedStatement], []⟩ [.equalsNan, .stringSets, .usePromises] .empty).findings
        crowdedStatement = .ok found ∧
      ([0, 0, 1], outerComparison) ∈ comparisons ∧ ([0, 0, 1, 0], innerComparison) ∈ comparisons ∧
      ([0, 0, 2, 1], setLetters) ∈ sources ∧ ([0, 0], droppedCall) ∈ dropped ∧
      (found.filter fun f => decide (f.rule = Rule.equalsNan.id)).Perm (comparisons.map fun x =>
        Rule.equalsNan.finding crowdedStatement (NanComparison.reportOn
          ⟨⟨[crowdedStatement], []⟩, crowdedStatement, Rule.equalsNan.id⟩ x.2)) ∧
      (found.filter fun f => decide (f.rule = Rule.stringSets.id)).Perm (sources.map fun x =>
        Rule.stringSets.finding crowdedStatement (StringSet.report
          ⟨⟨[crowdedStatement], []⟩, crowdedStatement, Rule.stringSets.id⟩ x.2)) ∧
      (found.filter fun f => decide (f.rule = Rule.usePromises.id)).Perm (dropped.map fun x =>
        Rule.usePromises.finding crowdedStatement (DroppedPromise.reportOn x.2)) := by
  obtain ⟨hnan, hset, hpromise⟩ := findings_exactly ⟨[crowdedStatement], []⟩ .empty
    crowdedStatement (by decide +kernel) (by decide +kernel)
  obtain ⟨comparisons, -, hcomparisons, hnan⟩ := hnan.each_once
  obtain ⟨sources, -, hsources, hset⟩ := hset.each_once
  obtain ⟨dropped, -, hdropped, hpromise⟩ := hpromise.each_once
  have hends : (∃ found, (checkerOf ⟨[crowdedStatement], []⟩
      [.equalsNan, .stringSets, .usePromises] .empty).findings crowdedStatement = .ok found) ↔ _ :=
    Checker.exists_findings (by decide +kernel)
  obtain ⟨found, hfound⟩ := hends.2 (by decide +kernel)
  refine ⟨found, comparisons, sources, dropped, hfound, (hcomparisons _ _).2 ?_,
    (hcomparisons _ _).2 ?_, (hsources _ _).2 ?_, (hdropped _ _).2 ?_,
    hnan _ (by decide) (by decide) found hfound, hset _ (by decide) (by decide) found hfound,
    hpromise _ (by decide) (by decide) found hfound⟩
  · exact ⟨rfl, rfl, by decide, _, _, rfl, rfl, .inr ⟨rfl, rfl⟩⟩
  · exact ⟨rfl, rfl, by decide, _, _, rfl, rfl, .inl ⟨rfl, rfl⟩⟩
  · exact ⟨[0, 0, 2], _, _, _, rfl, rfl, rfl, rfl, ⟨rfl, rfl⟩, rfl, rfl, .kind rfl⟩
  · exact ⟨[0], _, _, _, rfl, rfl, rfl, rfl, rfl, rfl, .itself (by decide), isPromise_promiseType⟩

end Conformance
