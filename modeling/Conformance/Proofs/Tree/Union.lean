import Conformance.Sink
/-!
# What a type may be

Unions nest, and a value of a union is of one of its members.  `TypeInfo.MayBe` goes down to a
member that is no union itself, and `TypeInfo.IsString` says of all of them at once that a value is
certain to be a string; a union of nothing promises nothing.  The two functions that rules ask are
these two: `mem_constituents` and `isStringLike_eq_true`.  On the way down stand the parts of a type,
unions among them (`TypeInfo.Holds`).
-/
namespace Conformance
namespace TypeInfo

/-- A value of the first type may be of the second, which is no union. -/
inductive MayBe : TypeInfo → TypeInfo → Prop where
  | itself {t : TypeInfo} : t.kind ≠ .union → MayBe t t
  | member {t m u : TypeInfo} : t.kind = .union → m ∈ t.members → MayBe m u → MayBe t u

/-- A value of this type is a string, whichever member of a union it is of. -/
inductive IsString : TypeInfo → Prop where
  | kind {t : TypeInfo} : isStringKind t.kind = true → IsString t
  | union {t : TypeInfo} : t.kind = .union → t.members ≠ [] → (∀ m ∈ t.members, IsString m) →
    IsString t

theorem induction_members {P : TypeInfo → Prop} (step : ∀ t, (∀ m ∈ t.members, P m) → P t)
    (t : TypeInfo) : P t :=
  step t fun m _ => induction_members step m
termination_by sizeOf t
decreasing_by
  rename_i hm
  have hlt := List.sizeOf_lt_of_mem hm
  cases t
  simp only [mk.sizeOf_spec] at hlt ⊢
  omega

theorem constituentsOf_eq (ts : List TypeInfo) : constituentsOf ts = ts.flatMap constituents := by
  induction ts with
  | nil => rw [constituentsOf, List.flatMap_nil]
  | cons t ts ih => rw [constituentsOf, List.flatMap_cons, ih]

theorem constituents_eq (t : TypeInfo) :
    t.constituents = if t.kind = .union then t.members.flatMap constituents else [t] := by
  cases t
  rw [constituents, constituentsOf_eq]

theorem allStringLike_eq (ts : List TypeInfo) : allStringLike ts = ts.all isStringLike := by
  induction ts with
  | nil => rw [allStringLike, List.all_nil]
  | cons t ts ih => rw [allStringLike, List.all_cons, ih]

theorem isStringLike_eq (t : TypeInfo) : t.isStringLike =
    (isStringKind t.kind ||
      (t.kind == .union && !t.members.isEmpty && t.members.all isStringLike)) := by
  cases t
  rw [isStringLike, allStringLike_eq]

/-- **The constituents of a type are what it may be.** -/
theorem mem_constituents {u t : TypeInfo} : u ∈ t.constituents ↔ t.MayBe u := by
  induction t using induction_members with | _ t ih
  rw [constituents_eq]
  constructor
  · intro h
    split at h
    · rename_i hunion
      obtain ⟨m, hm, hu⟩ := List.mem_flatMap.1 h
      exact .member hunion hm ((ih m hm).1 hu)
    · rename_i hunion
      obtain rfl := List.mem_singleton.1 h
      exact .itself hunion
  · rintro (hunion | ⟨hunion, hm, hu⟩)
    · rw [if_neg hunion, List.mem_singleton]
    · rw [if_pos hunion]
      exact List.mem_flatMap.2 ⟨_, hm, (ih _ hm).2 hu⟩

theorem isStringLike_eq_true {t : TypeInfo} : t.isStringLike = true ↔ t.IsString := by
  induction t using induction_members with | _ t ih
  rw [isStringLike_eq, Bool.or_eq_true, Bool.and_eq_true, Bool.and_eq_true, beq_iff_eq,
    Bool.not_eq_true', List.isEmpty_eq_false_iff, List.all_eq_true]
  constructor
  · rintro (hkind | ⟨⟨hunion, hne⟩, hall⟩)
    · exact .kind hkind
    · exact .union hunion hne fun m hm => (ih m hm).1 (hall m hm)
  · rintro (hkind | ⟨hunion, hne, hall⟩)
    · exact .inl hkind
    · exact .inr ⟨⟨hunion, hne⟩, fun m hm => (ih m hm).2 (hall m hm)⟩

/-! ## Parts -/

/-- The second type is the first one, or a member at some depth of the unions in it. -/
inductive Holds : TypeInfo → TypeInfo → Prop where
  | itself {t : TypeInfo} : Holds t t
  | member {t m u : TypeInfo} : t.kind = .union → m ∈ t.members → Holds m u → Holds t u

theorem MayBe.holds {t u : TypeInfo} (h : t.MayBe u) : t.Holds u := by
  induction h with
  | itself => exact .itself
  | member hunion hm _ ih => exact .member hunion hm ih

theorem Holds.mayBe {t u v : TypeInfo} (h : t.Holds u) (hv : u.MayBe v) : t.MayBe v := by
  induction h with
  | itself => exact hv
  | member hunion hm _ ih => exact .member hunion hm (ih hv)

end TypeInfo

theorem Sink.appearsIn_eq_true {s : Sink} {t : TypeInfo} :
    s.appearsIn t = true ↔ ∃ u, t.MayBe u ∧ s.matchesType u = true := by
  simp only [appearsIn, List.any_eq_true, TypeInfo.mem_constituents]

end Conformance
