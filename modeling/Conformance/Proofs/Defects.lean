import Conformance.Proofs.Pass
/-!
# Which trees have defects

Each rule asks nodes of some kinds for parts: children that their kind promises.  `Rule.parts` says
which, in one table; the handlers ask for them one by one, in between other questions, and ask for
exemptions only at the end.  So the defects that a pass meets are those of the table
(`passDefects_eq`), and they do not depend on the exemptions.
-/
namespace Conformance

/-- The parts that a rule asks a node for, in the order of the children that they are. -/
def Rule.parts (r : Rule) (n : Node) : List String :=
  match r, n.kind with
  | .trustedSink _, .binaryExpression =>
    if n.operator = some "=" then ["assignment target", "assigned value"] else []
  | .trustedSink _, .callExpression => ["callee"]
  | .trustedSink _, .newExpression => ["callee"]
  | .trustedSink _, .variableDeclaration => ["declared name"]
  | .equalsNan, .binaryExpression =>
    if n.operator ∈ [some "==", some "===", some "!=", some "!=="] then
      ["left operand", "right operand"]
    else []
  | .stringSets, .newExpression => ["constructor"]
  | .usePromises, .expressionStatement => ["expression"]
  | _, _ => []

/-- Does a node lack a part that a rule asks for? -/
def Rule.isLacking (r : Rule) (n : Node) : Bool := n.children.length < (r.parts n).length

def Rule.defect? (file : SourceFile) (n : Node) (r : Rule) : Option Defect :=
  (r.parts n)[n.children.length]?.map fun part => ⟨r.name, file.fileName, n.kind, n.pos, part⟩

/-- The defects of a program for some rules: file by file without the declaration files, node by
node in preorder, and at each node rule by rule. -/
def Program.defects (program : Program) (rules : List Rule) : List Defect :=
  (program.files.filter fun file => !file.isDeclaration).flatMap fun file =>
    (Node.preorderOf file.statements).flatMap fun n => rules.filterMap (Rule.defect? file n)

/-! ## Handlers -/

def Handler.fault? (h : Handler) (site : Site) (n : Node) : Option Defect :=
  match h site n with
  | .error d => some d
  | .ok _ => none

theorem Handler.fault?_of_ok {h : Handler} {site : Site} {n : Node}
    (hok : ∃ reports, h site n = .ok reports) : h.fault? site n = none := by
  obtain ⟨reports, hok⟩ := hok
  simp [fault?, hok]

def Site.lack? (site : Site) (n : Node) (parts : List String) : Option Defect :=
  parts[n.children.length]?.map (site.defect n)

theorem TrustedSink.fault?_checkAssignment (k : TrustedKind) (isExempt : ProjectPath → Bool)
    (site : Site) (n : Node) : (checkAssignment k isExempt).fault? site n =
      site.lack? n (if n.operator = some "=" then ["assignment target", "assigned value"]
        else []) := by
  unfold Handler.fault? checkAssignment
  by_cases hop : n.operator = some "="
  · rcases hc : n.children with _ | ⟨target, _ | ⟨value, rest⟩⟩ <;>
      simp [hop, Site.child, Node.child?, Site.lack?, hc]
  · simp [hop, Site.lack?]

theorem TrustedSink.fault?_checkArguments (k : TrustedKind) (isExempt : ProjectPath → Bool)
    (site : Site) (n : Node) :
    (checkArguments k isExempt).fault? site n = site.lack? n ["callee"] := by
  unfold Handler.fault? checkArguments
  rcases hc : n.children with _ | ⟨callee, rest⟩ <;>
    simp [Site.child, Node.child?, Site.lack?, hc]

theorem TrustedSink.fault?_checkInitializer (k : TrustedKind) (isExempt : ProjectPath → Bool)
    (site : Site) (n : Node) :
    (checkInitializer k isExempt).fault? site n = site.lack? n ["declared name"] := by
  unfold Handler.fault? checkInitializer
  rcases hc : n.children with _ | ⟨name, _ | ⟨value, rest⟩⟩ <;>
    simp [Site.child, Node.child?, Site.lack?, hc]

theorem NanComparison.negation?_eq_none {operator : Option String} :
    operator.bind negation? = none ↔
      operator ∉ [some "==", some "===", some "!=", some "!=="] := by
  cases operator with
  | none => simp
  | some op =>
    rw [Option.bind_some]
    unfold negation?
    split <;> simp_all

theorem NanComparison.fault?_check (isExempt : ProjectPath → Bool) (site : Site) (n : Node) :
    (check isExempt).fault? site n =
      site.lack? n (if n.operator ∈ [some "==", some "===", some "!=", some "!=="] then
        ["left operand", "right operand"] else []) := by
  cases hop : n.operator.bind negation? with
  | none =>
    rw [if_neg (negation?_eq_none.1 hop)]
    simp [Handler.fault?, check, hop, Site.lack?]
  | some negated =>
    have hmem : n.operator ∈ [some "==", some "===", some "!=", some "!=="] := by
      by_contra hmem
      rw [negation?_eq_none.2 hmem] at hop
      cases hop
    rw [if_pos hmem]
    rcases hc : n.children with _ | ⟨left, _ | ⟨right, rest⟩⟩
    · simp [Handler.fault?, check, hop, Site.child, Node.child?, Site.lack?, hc]
    · simp [Handler.fault?, check, hop, Site.child, Node.child?, Site.lack?, hc]
    · have hok : ∃ reports, check isExempt site n = .ok reports := by
        simp only [check, hop, Site.child, Node.child?, hc, List.getElem?_cons_zero,
          List.getElem?_cons_succ]
        split
        · exact ⟨_, rfl⟩
        · split <;> exact ⟨_, rfl⟩
      rw [Handler.fault?_of_ok hok]
      simp [Site.lack?, hc]

theorem StringSet.fault?_check (isExempt : ProjectPath → Bool) (site : Site) (n : Node) :
    (check isExempt).fault? site n = site.lack? n ["constructor"] := by
  rcases hc : n.children with _ | ⟨callee, rest⟩
  · simp [Handler.fault?, check, Site.child, Node.child?, Site.lack?, hc]
  · have hok : ∃ reports, check isExempt site n = .ok reports := by
      simp only [check, Site.child, Node.child?, hc, List.getElem?_cons_zero]
      split
      · exact ⟨_, rfl⟩
      · split
        · exact ⟨_, rfl⟩
        · split
          · exact ⟨_, rfl⟩
          · split <;> exact ⟨_, rfl⟩
    rw [Handler.fault?_of_ok hok]
    simp [Site.lack?, hc]

theorem DroppedPromise.fault?_check (isExempt : ProjectPath → Bool) (site : Site) (n : Node) :
    (check isExempt).fault? site n = site.lack? n ["expression"] := by
  rcases hc : n.children with _ | ⟨expression, rest⟩
  · simp [Handler.fault?, check, Site.child, Node.child?, Site.lack?, hc]
  · have hok : ∃ reports, check isExempt site n = .ok reports := by
      simp only [check, Site.child, Node.child?, hc, List.getElem?_cons_zero]
      split
      · exact ⟨_, rfl⟩
      · split
        · exact ⟨_, rfl⟩
        · split <;> exact ⟨_, rfl⟩
    rw [Handler.fault?_of_ok hok]
    simp [Site.lack?, hc]

theorem Rule.defect?_eq_lack? (program : Program) (file : SourceFile) (n : Node) (r : Rule) :
    r.defect? file n = Site.lack? ⟨program, file, r.id⟩ n (r.parts n) := rfl

theorem Site.lack?_nil (site : Site) (n : Node) : site.lack? n [] = none := rfl

/-- **The handlers of a rule meet the defect of the table, whatever is exempt.** At most one of them
is for the kind of the node. -/
theorem Rule.flatMap_fault? (r : Rule) (isExempt : ProjectPath → Bool) (program : Program)
    (file : SourceFile) (n : Node) :
    ((r.exemptHandlers isExempt).filter (·.1 == n.kind)).flatMap
        (fun h => (h.2.fault? ⟨program, file, r.id⟩ n).toList) = (r.defect? file n).toList := by
  rw [defect?_eq_lack? program]
  unfold parts
  cases r with
  | trustedSink k =>
    simp only [exemptHandlers, TrustedSink.handlers]
    cases n.kind <;>
      simp [TrustedSink.fault?_checkAssignment, TrustedSink.fault?_checkArguments,
        TrustedSink.fault?_checkInitializer, Site.lack?_nil]
  | equalsNan =>
    simp only [exemptHandlers, NanComparison.handlers]
    cases n.kind <;> simp [NanComparison.fault?_check, Site.lack?_nil]
  | stringSets =>
    simp only [exemptHandlers, StringSet.handlers]
    cases n.kind <;> simp [StringSet.fault?_check, Site.lack?_nil]
  | usePromises =>
    simp only [exemptHandlers, DroppedPromise.handlers]
    cases n.kind <;> simp [DroppedPromise.fault?_check, Site.lack?_nil]

/-! ## Passes -/

theorem Checker.fault?_call (program : Program) (file : SourceFile) (r : Registration) (n : Node) :
    Checker.fault? (call program file) (r, n) = r.handler.fault? ⟨program, file, r.rule⟩ n := by
  simp only [Checker.fault?, call, Handler.fault?]
  cases r.handler ⟨program, file, r.rule⟩ n <;> rfl

theorem defects_at (program : Program) (rules : List Rule) (exemptions : ExemptionList)
    (file : SourceFile) (n : Node) :
    ((registrationsOf rules exemptions).filter (fun r => r.kind == n.kind)).filterMap
        (fun r => Checker.fault? (Checker.call program file) (r, n)) =
      rules.filterMap (Rule.defect? file n) := by
  simp only [Checker.fault?_call]
  rw [List.filterMap_eq_flatMap_toList, List.filterMap_eq_flatMap_toList]
  unfold registrationsOf
  rw [List.filter_flatMap, List.flatMap_assoc]
  congr 1
  funext r
  rw [List.filter_map, List.flatMap_map]
  exact r.flatMap_fault? (exemptions.isExempt r.name) program file n

theorem Checker.defectsIn_registrationsOf (program : Program) (rules : List Rule)
    (exemptions : ExemptionList) (file : SourceFile) :
    defectsIn program (registrationsOf rules exemptions) file =
      if file.isDeclaration then []
      else (Node.preorderOf file.statements).flatMap fun n =>
        rules.filterMap (Rule.defect? file n) := by
  unfold defectsIn
  split
  · rfl
  · unfold calls
    rw [List.filterMap_flatMap]
    congr 1
    funext n
    rw [List.filterMap_map]
    exact defects_at program rules exemptions file n

/-- **The defects of a pass are those of the table**, so exemptions play no part in them. -/
theorem passDefects_eq (program : Program) (rules : List Rule) (exemptions : ExemptionList) :
    passDefects program rules exemptions = program.defects rules := by
  unfold passDefects Program.defects
  induction program.files with
  | nil => rfl
  | cons file files ih =>
    rw [List.flatMap_cons, ih, Checker.defectsIn_registrationsOf, List.filter_cons]
    cases file.isDeclaration <;> simp

theorem Rule.isSome_defect? (file : SourceFile) (n : Node) (r : Rule) :
    (r.defect? file n).isSome = r.isLacking n := by
  rw [defect?, Option.isSome_map, Bool.eq_iff_iff]
  simp [isLacking]

theorem Program.defects_ne_nil {program : Program} {rules : List Rule} :
    program.defects rules ≠ [] ↔ ∃ file ∈ program.files, file.isDeclaration = false ∧
      ∃ n ∈ Node.preorderOf file.statements, ∃ rule ∈ rules, rule.isLacking n = true := by
  constructor
  · intro hne
    obtain ⟨d, hd⟩ := List.exists_mem_of_ne_nil _ hne
    obtain ⟨file, hfile, hd⟩ := List.mem_flatMap.1 hd
    obtain ⟨n, hn, hd⟩ := List.mem_flatMap.1 hd
    obtain ⟨rule, hrule, hd⟩ := List.mem_filterMap.1 hd
    obtain ⟨hfile, hdecl⟩ := List.mem_filter.1 hfile
    refine ⟨file, hfile, by simpa using hdecl, n, hn, rule, hrule, ?_⟩
    rw [← Rule.isSome_defect? file, hd]
    rfl
  · rintro ⟨file, hfile, hdecl, n, hn, rule, hrule, hlack⟩
    rw [← Rule.isSome_defect? file] at hlack
    obtain ⟨d, hd⟩ := Option.isSome_iff_exists.1 hlack
    refine List.ne_nil_of_mem (List.mem_flatMap.2 ⟨file, List.mem_filter.2 ⟨hfile, ?_⟩,
      List.mem_flatMap.2 ⟨n, hn, List.mem_filterMap.2 ⟨rule, hrule, hd⟩⟩⟩)
    simp [hdecl]

end Conformance
