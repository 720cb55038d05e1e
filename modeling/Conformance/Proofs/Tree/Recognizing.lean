import Conformance.Proofs.Tree.Union
/-!
# Trusted types in unions

A sink looks for its type in what a type may be, and a union is nothing itself: only its members
count (`appearsIn_of_union`).  But a union can have a declaration of its own, as a named type, and
that can be the one the sink goes by.  Such a union is the trusted type and is not seen, unless one
of its members is seen (`Overlooks`).  In every other type a sink appears as the rules ask: in the
type itself or in a member of the union, at any depth (`recognizes_iff`).
-/
namespace Conformance

namespace Sink

variable {s : Sink} {t u : TypeInfo}

theorem appearsIn_of_ne (h : t.kind ≠ .union) : s.appearsIn t = s.matchesType t := by
  rw [appearsIn, TypeInfo.constituents_eq, if_neg h, List.any_cons, List.any_nil, Bool.or_false]

theorem appearsIn_of_union (h : t.kind = .union) :
    s.appearsIn t = t.members.any s.appearsIn := by
  rw [appearsIn, TypeInfo.constituents_eq, if_pos h, List.any_flatMap]
  rfl

/-- **What appears in a part of a type appears in the type.** -/
theorem appearsIn_of_holds (h : t.Holds u) (hu : s.appearsIn u = true) : s.appearsIn t = true := by
  obtain ⟨v, huv, hv⟩ := appearsIn_eq_true.1 hu
  exact appearsIn_eq_true.2 ⟨v, h.mayBe huv, hv⟩

/-- The sink appears in a type when it is the type itself, or appears in a member of the union. -/
def Recognizes (s : Sink) (t : TypeInfo) : Prop :=
  s.appearsIn t = true ↔
    s.matchesType t = true ∨ (t.kind = .union ∧ ∃ m ∈ t.members, s.appearsIn m = true)

/-- The sink appears in a type when it is the type itself, or a member at some depth. -/
def RecognizesWithin (s : Sink) (t : TypeInfo) : Prop :=
  s.appearsIn t = true ↔ ∃ u, t.Holds u ∧ s.matchesType u = true

/-- A union that is declared as the trusted type, while none of its members is seen to be one. -/
structure Overlooks (s : Sink) (t : TypeInfo) : Prop where
  union : t.kind = .union
  declared : s.matchesType t = true
  unseen : ∀ m ∈ t.members, s.appearsIn m = false

theorem Overlooks.appearsIn_eq_false (h : s.Overlooks t) : s.appearsIn t = false := by
  rw [appearsIn_of_union h.union, List.any_eq_false]
  intro m hm
  rw [h.unseen m hm]
  exact Bool.false_ne_true

/-- A part of a type that is the trusted one is seen, unless it is a union that is overlooked. -/
theorem appearsIn_or_overlooks (hu : s.matchesType u = true) :
    s.appearsIn u = true ∨ s.Overlooks u := by
  by_cases hunion : u.kind = .union
  · by_cases hseen : s.appearsIn u = true
    · exact .inl hseen
    · refine .inr ⟨hunion, hu, fun m hm => Bool.eq_false_iff.2 ?_⟩
      intro hmember
      exact hseen (appearsIn_of_holds (.member hunion hm .itself) hmember)
  · exact .inl (by rw [appearsIn_of_ne hunion, hu])

/-- **A sink appears in a type as itself or in a member of the union, except for unions that are
overlooked.** For every sink and every type:
- it appears there exactly as the type itself or in a member of the union, unless the type is such
  a union;
- it appears there exactly when the type or a member of it at some depth is the trusted one, if
  it appears in every type that has such a union in it. -/
theorem recognizes_iff (s : Sink) (t : TypeInfo) :
    (s.Recognizes t ↔ ¬s.Overlooks t) ∧
    (s.RecognizesWithin t ↔ ((∃ u, t.Holds u ∧ s.Overlooks u) → s.appearsIn t = true)) := by
  constructor
  · constructor
    · intro h hover
      have hseen := h.2 (.inl hover.declared)
      rw [hover.appearsIn_eq_false] at hseen
      cases hseen
    · intro hover
      constructor
      · intro hseen
        by_cases hunion : t.kind = .union
        · rw [appearsIn_of_union hunion, List.any_eq_true] at hseen
          exact .inr ⟨hunion, hseen⟩
        · exact .inl (by rw [← appearsIn_of_ne hunion, hseen])
      · rintro (hself | ⟨hunion, m, hm, hseen⟩)
        · exact (appearsIn_or_overlooks hself).resolve_right hover
        · exact appearsIn_of_holds (.member hunion hm .itself) hseen
  · constructor
    · rintro h ⟨u, hu, hover⟩
      exact h.2 ⟨u, hu, hover.declared⟩
    · intro h
      constructor
      · intro hseen
        obtain ⟨u, hu, hself⟩ := appearsIn_eq_true.1 hseen
        exact ⟨u, hu.holds, hself⟩
      · rintro ⟨u, hu, hself⟩
        rcases appearsIn_or_overlooks hself with hseen | hover
        · exact appearsIn_of_holds hu hseen
        · exact h ⟨u, hu, hover⟩

/-! A union of two objects, declared where the trusted types are and under the name of one. -/

def namedUnion : TypeInfo :=
  ⟨"TrustedHTML", .union,
    [⟨"/app/node_modules/@types/trusted-types/index.d.ts", "global.TrustedHTML"⟩],
    [⟨"Sanitized", .object, [], []⟩, ⟨"Escaped", .object, [], []⟩]⟩

/-- The union is the trusted type itself, and the sink does not appear in it. -/
theorem not_recognizes_namedUnion : TrustedKind.html.sink.matchesType namedUnion = true ∧
    TrustedKind.html.sink.appearsIn namedUnion = false ∧
    ¬TrustedKind.html.sink.Recognizes namedUnion := by
  have hself : TrustedKind.html.sink.matchesType namedUnion = true := by decide +kernel
  have hunseen : TrustedKind.html.sink.appearsIn namedUnion = false := by decide +kernel
  refine ⟨hself, hunseen, fun h => ?_⟩
  have hseen := h.2 (.inl hself)
  rw [hunseen] at hseen
  cases hseen

end Sink

end Conformance
