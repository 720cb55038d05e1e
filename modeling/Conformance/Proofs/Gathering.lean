import Mathlib.Data.List.Nodup
import Mathlib.Data.List.Sort
/-!
# Gathering, sorting and leaving out

What a run has to say is gathered from many places into one list.

- Each thing carries a tag of where it came from: the findings of all rules that of a rule, the
  exemptions of all names that of a name.  Where no tag comes twice, what came from one source is
  got back by its tag (`filter_flatMap_tag`).
- Sorting by a total preorder is settled once the order among equals is: a list has one stable sort
  (`IsStableSort.unique`), and `List.mergeSort` finds it.  So leaving elements out may be done
  before or after sorting (`mergeSort_filter`).
- Where each step may fail, the first that does is the result (`faultOf_mapM`), and else all steps
  have one (`mapM_eq_ok`).  Then leaving steps out leaves out what they come to
  (`mapM_filter_of_ok`).
-/
namespace Conformance

/-! ## Tags -/

/-- **What came from one of the sources is what carries its tag.** -/
theorem filter_flatMap_tag {α β κ : Type} [DecidableEq κ] {tag : α → κ} (tagOf : β → κ)
    {f : α → List β} (hf : ∀ a, ∀ b ∈ f a, tagOf b = tag a) {a : α} : ∀ {sources : List α},
    (sources.map tag).Nodup → a ∈ sources →
      (sources.flatMap f).filter (fun b => decide (tagOf b = tag a)) = f a
  | a' :: sources, hsources, ha => by
    -- the parts of sources with another tag are left out as a whole
    have hother : ∀ a'', tag a'' ≠ tag a → ∀ b ∈ f a'', ¬decide (tagOf b = tag a) = true :=
      fun a'' hne b hb h => hne ((hf a'' b hb).symm.trans (of_decide_eq_true h))
    rw [List.map_cons, List.nodup_cons] at hsources
    rw [List.flatMap_cons, List.filter_append]
    rcases List.mem_cons.1 ha with rfl | ha
    · have hrest : (sources.flatMap f).filter (fun b => decide (tagOf b = tag a)) = [] := by
        refine List.filter_eq_nil_iff.2 fun b hb => ?_
        obtain ⟨a', ha', hb⟩ := List.mem_flatMap.1 hb
        exact hother a' (fun hsame => hsources.1 (List.mem_map.2 ⟨a', ha', hsame⟩)) b hb
      rw [hrest, List.append_nil]
      exact List.filter_eq_self.2 fun b hb => decide_eq_true (hf a b hb)
    · have hne : tag a' ≠ tag a := fun hsame => hsources.1 (List.mem_map.2 ⟨a, ha, hsame.symm⟩)
      rw [List.filter_eq_nil_iff.2 (hother a' hne), List.nil_append]
      exact filter_flatMap_tag tagOf hf hsources.2 ha

/-! ## Stable sorts -/

section

variable {α : Type} {le : α → α → Bool}

/-- `sorted` holds what `given` holds, in order, and equals in the order they had. -/
structure IsStableSort (le : α → α → Bool) (sorted given : List α) : Prop where
  perm : sorted.Perm given
  ordered : sorted.Pairwise (fun a b => le a b = true)
  stable : ∀ a, sorted.filter (fun b => le a b && le b a) = given.filter (fun b => le a b && le b a)

theorem eq_of_ordered_of_filter_eq (total : ∀ a b, (le a b || le b a) = true) : ∀ (xs ys : List α),
    xs.Pairwise (fun a b => le a b = true) → ys.Pairwise (fun a b => le a b = true) →
    (∀ a, xs.filter (fun b => le a b && le b a) = ys.filter (fun b => le a b && le b a)) → xs = ys
  | [], [], _, _, _ => rfl
  | [], y :: ys, _, _, h => by
    have hy : le y y = true := by simpa using total y y
    have := h y
    simp [hy] at this
  | x :: xs, [], _, _, h => by
    have hx : le x x = true := by simpa using total x x
    have := h x
    simp [hx] at this
  | x :: xs, y :: ys, hxs, hys, h => by
    have hx : le x x = true := by simpa using total x x
    have hy : le y y = true := by simpa using total y y
    -- each head occurs in the other list, so it is at least that list's head
    have hmx : x ∈ (y :: ys).filter (fun b => le x b && le b x) := by rw [← h x]; simp [hx]
    have hmy : y ∈ (x :: xs).filter (fun b => le y b && le b y) := by rw [h y]; simp [hy]
    have hyx : le y x = true := by
      rcases List.mem_cons.1 (List.mem_filter.1 hmx).1 with rfl | hm
      · exact hx
      · exact List.rel_of_pairwise_cons hys hm
    have hxy : le x y = true := by
      rcases List.mem_cons.1 (List.mem_filter.1 hmy).1 with rfl | hm
      · exact hy
      · exact List.rel_of_pairwise_cons hxs hm
    have hhead := h x
    simp only [List.filter_cons, hx, hxy, hyx, Bool.and_self, if_true, List.cons.injEq] at hhead
    obtain ⟨rfl, -⟩ := hhead
    have htail : ∀ a, xs.filter (fun b => le a b && le b a) = ys.filter (fun b => le a b && le b a) := by
      intro a
      have := h a
      simp only [List.filter_cons] at this
      split at this
      · exact (List.cons.inj this).2
      · exact this
    rw [eq_of_ordered_of_filter_eq total xs ys hxs.of_cons hys.of_cons htail]

/-- **A list has one stable sort.** -/
theorem IsStableSort.unique (total : ∀ a b, (le a b || le b a) = true) {xs ys given : List α}
    (hx : IsStableSort le xs given) (hy : IsStableSort le ys given) : xs = ys :=
  eq_of_ordered_of_filter_eq total xs ys hx.ordered hy.ordered
    fun a => (hx.stable a).trans (hy.stable a).symm

theorem filter_mergeSort_equals (trans : ∀ a b c, le a b = true → le b c = true → le a c = true)
    (total : ∀ a b, (le a b || le b a) = true) (l : List α) (a : α) :
    (l.mergeSort le).filter (fun b => le a b && le b a) = l.filter (fun b => le a b && le b a) := by
  have hpair : (l.filter (fun b => le a b && le b a)).Pairwise (fun b c => le b c = true) := by
    apply List.pairwise_of_forall_mem_list
    intro b hb c hc
    have hb' := (List.mem_filter.1 hb).2
    have hc' := (List.mem_filter.1 hc).2
    simp only [Bool.and_eq_true] at hb' hc'
    exact trans b a c hb'.2 hc'.1
  have hsub := (List.sublist_mergeSort trans total hpair List.filter_sublist).filter
    (fun b => le a b && le b a)
  rw [List.filter_filter] at hsub
  simp only [Bool.and_self] at hsub
  exact (hsub.eq_of_length ((List.mergeSort_perm l le).filter _).length_eq.symm).symm

theorem isStableSort_mergeSort (trans : ∀ a b c, le a b = true → le b c = true → le a c = true)
    (total : ∀ a b, (le a b || le b a) = true) (l : List α) : IsStableSort le (l.mergeSort le) l where
  perm := List.mergeSort_perm l le
  ordered := List.pairwise_mergeSort trans total l
  stable := filter_mergeSort_equals trans total l

theorem IsStableSort.filter {sorted given : List α} (h : IsStableSort le sorted given)
    (p : α → Bool) : IsStableSort le (sorted.filter p) (given.filter p) where
  perm := h.perm.filter p
  ordered := h.ordered.filter p
  stable := by
    intro a
    rw [List.filter_filter, List.filter_filter]
    have hcomm : ∀ l : List α, l.filter (fun b => (le a b && le b a) && p b) =
        (l.filter (fun b => le a b && le b a)).filter p := by
      intro l
      rw [List.filter_filter]
      exact List.filter_congr fun b _ => Bool.and_comm _ _
    rw [hcomm, hcomm, h.stable a]

/-- **Elements may be left out before or after sorting.** -/
theorem mergeSort_filter (trans : ∀ a b c, le a b = true → le b c = true → le a c = true)
    (total : ∀ a b, (le a b || le b a) = true) (p : α → Bool) (l : List α) :
    (l.filter p).mergeSort le = (l.mergeSort le).filter p :=
  (isStableSort_mergeSort trans total (l.filter p)).unique total
    ((isStableSort_mergeSort trans total l).filter p)

end

/-! ## Results with faults -/

section

variable {ε ε' α β γ : Type}

def faultOf : Except ε α → Option ε
  | .error e => some e
  | .ok _ => none

/-- A result, unless there are faults before it: then the first of them. -/
def orFirst (faults : List ε) (r : Except ε α) : Except ε α :=
  match faults with
  | [] => r
  | e :: _ => .error e

theorem orFirst_eq_ok {faults : List ε} {r : Except ε α} {a : α} :
    orFirst faults r = .ok a ↔ faults = [] ∧ r = .ok a := by
  cases faults <;> simp [orFirst]

theorem faultOf_orFirst (faults : List ε) (r : Except ε α) :
    faultOf (orFirst faults r) = (faults ++ (faultOf r).toList).head? := by
  cases faults with
  | nil => cases r <;> rfl
  | cons e faults => rfl

theorem faultOf_eq_some {r : Except ε α} {e : ε} : faultOf r = some e ↔ r = .error e := by
  cases r <;> simp [faultOf]

theorem faultOf_mapError (f : ε → ε') (r : Except ε α) :
    faultOf (r.mapError f) = (faultOf r).map f := by
  cases r <;> rfl

theorem mapError_eq_ok {f : ε → ε'} {r : Except ε α} {a : α} :
    r.mapError f = .ok a ↔ r = .ok a := by
  cases r <;> simp [Except.mapError]

theorem bind_eq_ok {r : Except ε α} {f : α → Except ε β} {b : β} :
    (r >>= f) = .ok b ↔ ∃ a, r = .ok a ∧ f a = .ok b := by
  cases r <;> simp [bind, Except.bind]

theorem eq_ok_of_toOption {r : Except ε α} {a : α} (h : r.toOption = some a) : r = .ok a := by
  cases r with
  | error e => cases h
  | ok a' =>
    cases h
    rfl

/-- A result of which something is known is there. -/
theorem exists_eq_ok_of_map {r : Except ε α} {f : α → β} {b : β}
    (h : r.toOption.map f = some b) : ∃ a, r = .ok a ∧ f a = b := by
  obtain ⟨a, ha, hb⟩ := Option.map_eq_some_iff.1 h
  exact ⟨a, eq_ok_of_toOption ha, hb⟩

theorem mapM_eq_ok {f : α → Except ε β} : ∀ {xs : List α} {ys : List β},
    xs.mapM f = .ok ys ↔ List.Forall₂ (fun x y => f x = .ok y) xs ys
  | [], ys => by
    simp [pure, Except.pure, eq_comm]
  | x :: xs, ys => by
    simp only [List.mapM_cons, bind_eq_ok, List.forall₂_cons_left_iff, mapM_eq_ok]
    constructor
    · rintro ⟨y, hy, ys, hys, ⟨⟩⟩
      exact ⟨y, ys, hy, hys, rfl⟩
    · rintro ⟨y, ys, hy, hys, rfl⟩
      exact ⟨y, hy, ys, hys, rfl⟩

theorem exists_of_mem_mapM {f : α → Except ε β} {xs : List α} {ys : List β}
    (h : xs.mapM f = .ok ys) {y : β} (hy : y ∈ ys) : ∃ x ∈ xs, f x = .ok y := by
  obtain ⟨i, hi, rfl⟩ := List.getElem_of_mem hy
  have hall := mapM_eq_ok.1 h
  have hlt : i < xs.length := hall.length_eq ▸ hi
  exact ⟨xs[i], List.getElem_mem hlt, hall.get hlt hi⟩

/-- **Steps come to the first fault among them.** -/
theorem faultOf_mapM (f : α → Except ε β) : ∀ xs : List α,
    faultOf (xs.mapM f) = (xs.filterMap fun x => faultOf (f x)).head?
  | [] => rfl
  | x :: xs => by
    have ih := faultOf_mapM f xs
    rw [List.mapM_cons, List.filterMap_cons]
    cases hx : f x with
    | error e => rfl
    | ok y =>
      show faultOf (xs.mapM f >>= fun ys => .ok (y :: ys)) = _
      rw [show faultOf (Except.ok y : Except ε β) = none from rfl, ← ih]
      cases xs.mapM f <;> rfl

theorem eq_map_of_mapM {f : α → Except ε β} {g : α → β} : ∀ {xs : List α} {ys : List β},
    xs.mapM f = .ok ys → (∀ x ∈ xs, ∀ y, f x = .ok y → y = g x) → ys = xs.map g
  | [], ys, h, _ => by
    cases h
    rfl
  | x :: xs, ys, h, hg => by
    obtain ⟨y, ys, hy, hys, rfl⟩ := List.forall₂_cons_left_iff.1 (mapM_eq_ok.1 h)
    rw [List.map_cons, hg x List.mem_cons_self y hy,
      eq_map_of_mapM (mapM_eq_ok.2 hys) fun x hx => hg x (List.mem_cons_of_mem _ hx)]

theorem exists_mapM_eq_error {f : α → Except ε β} {xs : List α} :
    (∃ e, xs.mapM f = .error e) ↔ ∃ x ∈ xs, ∃ e, f x = .error e := by
  simp only [← faultOf_eq_some, faultOf_mapM, ← Option.isSome_iff_exists]
  rw [List.isSome_head?, ne_eq, List.filterMap_eq_nil_iff]
  simp [Option.isSome_iff_ne_none]

theorem exists_mapM_eq_ok {f : α → Except ε β} {xs : List α}
    (h : ∀ x ∈ xs, ∃ y, f x = .ok y) : ∃ ys, xs.mapM f = .ok ys := by
  cases hxs : xs.mapM f with
  | ok ys => exact ⟨ys, rfl⟩
  | error e =>
    obtain ⟨x, hx, e, hfault⟩ := exists_mapM_eq_error.1 ⟨e, hxs⟩
    obtain ⟨y, hy⟩ := h x hx
    cases hy.symm.trans hfault

theorem forall_mem_iff_of_forall₂ {p : α → Prop} {q : β → Prop} : ∀ {xs : List α} {ys : List β},
    List.Forall₂ (fun x y => q y ↔ p x) xs ys → ((∀ y ∈ ys, q y) ↔ ∀ x ∈ xs, p x)
  | _, _, .nil => by simp
  | _, _, .cons h hs => by
    rw [List.forall_mem_cons, List.forall_mem_cons, h, forall_mem_iff_of_forall₂ hs]

theorem mapM_of_mapM {f : α → Except ε β} {f' : α → Except ε' γ} {g : β → γ} : ∀ {xs : List α}
    {ys : List β}, xs.mapM f = .ok ys → (∀ x ∈ xs, ∀ y, f x = .ok y → f' x = .ok (g y)) →
      xs.mapM f' = .ok (ys.map g)
  | [], ys, h, _ => by
    cases h
    rfl
  | x :: xs, ys, h, hg => by
    obtain ⟨y, ys, hy, hys, rfl⟩ := List.forall₂_cons_left_iff.1 (mapM_eq_ok.1 h)
    have ih := mapM_of_mapM (mapM_eq_ok.2 hys) fun x hx => hg x (List.mem_cons_of_mem _ hx)
    rw [List.mapM_cons, hg x List.mem_cons_self y hy, ih]
    rfl

/-- **Steps that succeed do so also without some of them**, and come to the same without theirs. -/
theorem mapM_filter_of_ok {f : α → Except ε β} {p : α → Bool} {q : β → Bool} : ∀ {xs : List α}
    {ys : List β}, xs.mapM f = .ok ys → (∀ x ∈ xs, ∀ y, f x = .ok y → q y = p x) →
      (xs.filter p).mapM f = .ok (ys.filter q)
  | [], ys, h, _ => by
    cases h
    rfl
  | x :: xs, ys, h, hpq => by
    obtain ⟨y, ys, hy, hys, rfl⟩ := List.forall₂_cons_left_iff.1 (mapM_eq_ok.1 h)
    have ih := mapM_filter_of_ok (mapM_eq_ok.2 hys) fun x hx => hpq x (List.mem_cons_of_mem _ hx)
    rw [List.filter_cons, List.filter_cons, hpq x List.mem_cons_self y hy]
    cases p x with
    | false => exact ih
    | true =>
      simp only [if_true, List.mapM_cons, hy, ih]
      rfl

end

end Conformance
