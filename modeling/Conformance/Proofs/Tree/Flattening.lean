import Conformance.Proofs.Tree.Union
/-!
# Strings among what a type may be

Whether a type is string-like is asked level by level, and every union on the way has to have a
member.  The constituents are asked for in one list, which a union without members leaves no trace
in.  So a string-like type is one whose constituents are strings and in which no union, at any depth,
is empty (`isStringLike_iff`): between the two views stands nothing but the empty unions.
-/
namespace Conformance
namespace TypeInfo

variable {t u : TypeInfo}

/-- Every union in a type has a member, at every depth. -/
def IsInhabited (t : TypeInfo) : Prop := ∀ u, t.Holds u → u.kind = .union → u.members ≠ []

theorem isStringKind_eq_true {kind : TypeKind} :
    isStringKind kind = true ↔
      kind = .string ∨ kind = .stringLiteral ∨ kind = .templateLiteral := by
  cases kind <;> simp [isStringKind]

theorem MayBe.kind_ne (h : t.MayBe u) : u.kind ≠ .union := by
  induction h with
  | itself hkind => exact hkind
  | member _ _ _ ih => exact ih

theorem IsInhabited.member (h : t.IsInhabited) (hunion : t.kind = .union) (hu : u ∈ t.members) :
    u.IsInhabited :=
  fun v hv => h v (.member hunion hu hv)

theorem isInhabited_of_ne (h : t.kind ≠ .union) : t.IsInhabited := by
  rintro u (_ | ⟨hunion, -, -⟩) hkind
  · exact absurd hkind h
  · exact absurd hunion h

theorem isInhabited_of_members (hne : t.members ≠ []) (hall : ∀ m ∈ t.members, m.IsInhabited) :
    t.IsInhabited := by
  rintro u (_ | ⟨-, hm, hu⟩) hkind
  · exact hne
  · exact hall _ hm u hu hkind

theorem IsInhabited.exists_mayBe (h : t.IsInhabited) : ∃ u, t.MayBe u := by
  induction t using induction_members with | _ t ih
  by_cases hunion : t.kind = .union
  · obtain ⟨m, hm⟩ := List.exists_mem_of_ne_nil _ (h t .itself hunion)
    obtain ⟨u, hu⟩ := ih m hm (h.member hunion hm)
    exact ⟨u, .member hunion hm hu⟩
  · exact ⟨t, .itself hunion⟩

theorem IsString.isInhabited (h : t.IsString) : t.IsInhabited := by
  induction h with
  | @kind t hkind =>
    refine isInhabited_of_ne fun hunion => ?_
    rw [hunion] at hkind
    cases hkind
  | union _ hne _ ih => exact isInhabited_of_members hne ih

theorem IsString.kind_of_mayBe (h : t.IsString) (hu : t.MayBe u) : isStringKind u.kind = true := by
  induction hu with
  | itself hne =>
    obtain hkind | ⟨hunion, -, -⟩ := h
    · exact hkind
    · exact absurd hunion hne
  | member hunion hm _ ih =>
    obtain hkind | ⟨-, -, hall⟩ := h
    · rw [hunion] at hkind
      cases hkind
    · exact ih (hall _ hm)

/-- A type that may be nothing but strings is a string, unless some union in it is empty. -/
theorem isString_of_mayBe (h : t.IsInhabited)
    (hall : ∀ u, t.MayBe u → isStringKind u.kind = true) : t.IsString := by
  induction t using induction_members with | _ t ih
  by_cases hunion : t.kind = .union
  -- an empty union may be nothing at all, and so nothing but strings: `h` leaves it out
  · exact .union hunion (h t .itself hunion) fun m hm =>
      ih m hm (h.member hunion hm) fun u hu => hall u (.member hunion hm hu)
  · exact .kind (hall t (.itself hunion))

/-- **The string-like types are those of strings alone in which no union is empty.** -/
theorem isStringLike_iff : t.isStringLike = true ↔
    t.IsInhabited ∧ ∀ u ∈ t.constituents, isStringKind u.kind = true := by
  rw [isStringLike_eq_true]
  simp only [mem_constituents]
  exact ⟨fun h => ⟨h.isInhabited, fun u => h.kind_of_mayBe⟩, fun h => isString_of_mayBe h.1 h.2⟩

/-- **Being string-like agrees with the flat view of a type.** For every type:
- when it is string-like, it has constituents, and each of them is a string, a string literal or a
  template literal;
- the other way round the same holds when no union in it is empty;
- no constituent is a union. -/
theorem isStringLike_agrees (t : TypeInfo) :
    (t.isStringLike = true → t.constituents ≠ [] ∧ ∀ u ∈ t.constituents,
      u.kind = .string ∨ u.kind = .stringLiteral ∨ u.kind = .templateLiteral) ∧
    (t.IsInhabited →
      (t.constituents ≠ [] ∧ ∀ u ∈ t.constituents,
        u.kind = .string ∨ u.kind = .stringLiteral ∨ u.kind = .templateLiteral) →
      t.isStringLike = true) ∧
    ∀ u ∈ t.constituents, u.kind ≠ .union := by
  simp only [← isStringKind_eq_true]
  refine ⟨fun h => ?_, fun hinhabited h => ?_, fun u hu => ?_⟩
  · obtain ⟨hinhabited, hall⟩ := isStringLike_iff.1 h
    obtain ⟨u, hu⟩ := hinhabited.exists_mayBe
    exact ⟨List.ne_nil_of_mem (mem_constituents.2 hu), hall⟩
  · exact isStringLike_iff.2 ⟨hinhabited, h.2⟩
  · exact (mem_constituents.1 hu).kind_ne

/-! A union of a literal and of a union with a template and a string in it. -/

def madeUnion : TypeInfo :=
  ⟨"Made", .union, [], [⟨"`b${string}`", .templateLiteral, [], []⟩, ⟨"string", .string, [], []⟩]⟩

def spelledUnion : TypeInfo :=
  ⟨"Spelled", .union, [], [⟨"'a'", .stringLiteral, [], []⟩, madeUnion]⟩

theorem isInhabited_spelledUnion : spelledUnion.IsInhabited := by
  have hmade : madeUnion.IsInhabited :=
    isInhabited_of_members (by decide) (by simp [madeUnion, isInhabited_of_ne])
  exact isInhabited_of_members (by decide) (List.forall_mem_cons.2
    ⟨isInhabited_of_ne (by decide), List.forall_mem_singleton.2 hmade⟩)

theorem isStringLike_agrees_spelled : spelledUnion.IsInhabited ∧
    spelledUnion.isStringLike = true ∧ spelledUnion.constituents.length = 3 ∧
    ∀ u ∈ spelledUnion.constituents, u.kind ≠ .union := by
  obtain ⟨-, hback, hflat⟩ := isStringLike_agrees spelledUnion
  refine ⟨isInhabited_spelledUnion, hback isInhabited_spelledUnion ⟨?_, ?_⟩, ?_, hflat⟩
  all_goals simp [spelledUnion, madeUnion, constituents, constituentsOf]

/-- A union without members leaves no trace in the constituents, and the string that is left does
not make the type string-like. -/
example : (⟨"T", .union, [], [⟨"never", .union, [], []⟩, ⟨"string", .string, [], []⟩]⟩ :
    TypeInfo).isStringLike = false ∧
    (⟨"T", .union, [], [⟨"never", .union, [], []⟩, ⟨"string", .string, [], []⟩]⟩ :
      TypeInfo).constituents.map (·.kind) = [.string] := by
  decide +kernel

end TypeInfo
end Conformance
