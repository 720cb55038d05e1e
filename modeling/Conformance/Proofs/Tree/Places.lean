import Conformance.Tree.SourceFile
import Mathlib.Data.List.Nodup
/-!
# Places in a tree

Equal nodes may stand in many places, so what is said of each of them is said of places: which of
the statements of a file, then which child, and so on down.  `Node.placesIn` lists the places of
some trees with the nodes that stand there, in preorder (`map_snd_placesIn`), each place once
(`nodup_placesIn`) and none left out (`mem_placesIn`).

Some questions are about a node alone, and `Node.nodesIn` lists the places of the nodes that answer
one.  Most are about a node and its parent; `Node.childrenIn` lists the places of the children that
answer such a question.
-/
namespace Conformance
namespace Node

/-- The node at a place below a node: which child, then which child of that one, and so on. -/
def down? (n : Node) : List Nat → Option Node
  | [] => some n
  | i :: place => n.children[i]?.bind (·.down? place)

/-- The node at a place of some trees: which tree, and then down from its root. -/
def at? (ns : List Node) : List Nat → Option Node
  | [] => none
  | i :: place => ns[i]?.bind (·.down? place)

mutual

def placesOf : Node → List (List Nat × Node)
  | ⟨kind, pos, stop, text, operator, type, contextualType, children⟩ =>
    ([], ⟨kind, pos, stop, text, operator, type, contextualType, children⟩) ::
      placesFrom 0 children

def placesFrom : Nat → List Node → List (List Nat × Node)
  | _, [] => []
  | i, n :: ns => (placesOf n).map (fun x => (i :: x.1, x.2)) ++ placesFrom (i + 1) ns

end

def placesIn (ns : List Node) : List (List Nat × Node) := placesFrom 0 ns

theorem placesOf_eq (n : Node) : placesOf n = ([], n) :: placesIn n.children := by
  cases n
  rw [placesOf]
  rfl

@[simp] theorem placesFrom_nil (i : Nat) : placesFrom i [] = [] := by rw [placesFrom]

mutual

theorem map_snd_placesOf : ∀ n : Node, (placesOf n).map Prod.snd = preorder n
  | ⟨kind, pos, stop, text, operator, type, contextualType, children⟩ => by
    rw [placesOf, preorder, List.map_cons, map_snd_placesFrom 0 children]

theorem map_snd_placesFrom : ∀ (i : Nat) (ns : List Node),
    (placesFrom i ns).map Prod.snd = preorderOf ns
  | _, [] => by rw [placesFrom, preorderOf, List.map_nil]
  | i, n :: ns => by
    rw [placesFrom, preorderOf, List.map_append, List.map_map, map_snd_placesFrom (i + 1) ns,
      ← map_snd_placesOf n]
    rfl

end

/-- **The places are listed in preorder.** -/
theorem map_snd_placesIn (ns : List Node) : (placesIn ns).map Prod.snd = preorderOf ns :=
  map_snd_placesFrom 0 ns

theorem mem_placesFrom {place : List Nat} {v : Node} : ∀ {ns : List Node} {i : Nat},
    (place, v) ∈ placesFrom i ns ↔
      ∃ j rest n, place = (i + j) :: rest ∧ ns[j]? = some n ∧ (rest, v) ∈ placesOf n
  | [], i => by simp
  | n :: ns, i => by
    rw [placesFrom, List.mem_append, List.mem_map, mem_placesFrom]
    constructor
    · rintro (⟨x, hx, hplace⟩ | ⟨j, rest, m, rfl, hm, hrest⟩)
      · cases hplace
        exact ⟨0, x.1, n, rfl, rfl, hx⟩
      · exact ⟨j + 1, rest, m, by rw [Nat.add_assoc, Nat.add_comm 1], hm, hrest⟩
    · rintro ⟨_ | j, rest, m, rfl, hm, hrest⟩
      · cases hm
        exact .inl ⟨(rest, v), hrest, rfl⟩
      · exact .inr ⟨j, rest, m, by rw [Nat.add_assoc, Nat.add_comm 1], hm, hrest⟩

theorem mem_placesOf {v : Node} : ∀ {place : List Nat} {n : Node},
    (place, v) ∈ placesOf n ↔ n.down? place = some v
  | [], n => by
    rw [placesOf_eq, placesIn, List.mem_cons, mem_placesFrom, down?]
    simp [eq_comm]
  | i :: place, n => by
    rw [placesOf_eq, placesIn, List.mem_cons, mem_placesFrom, down?, Option.bind_eq_some_iff]
    constructor
    · rintro (h | ⟨j, rest, m, hplace, hm, hrest⟩)
      · cases h
      · rw [Nat.zero_add] at hplace
        cases hplace
        exact ⟨m, hm, mem_placesOf.1 hrest⟩
    · rintro ⟨m, hm, hplace⟩
      exact .inr ⟨i, place, m, by rw [Nat.zero_add], hm, mem_placesOf.2 hplace⟩

theorem mem_placesIn {ns : List Node} {place : List Nat} {v : Node} :
    (place, v) ∈ placesIn ns ↔ at? ns place = some v := by
  rw [placesIn, mem_placesFrom]
  cases place with
  | nil => simp [at?]
  | cons i place =>
    rw [at?, Option.bind_eq_some_iff]
    constructor
    · rintro ⟨j, rest, n, hplace, hn, hrest⟩
      rw [Nat.zero_add] at hplace
      cases hplace
      exact ⟨n, hn, mem_placesOf.1 hrest⟩
    · rintro ⟨n, hn, hplace⟩
      exact ⟨i, place, n, by rw [Nat.zero_add], hn, mem_placesOf.2 hplace⟩

mutual

theorem nodup_placesOf : ∀ n : Node, ((placesOf n).map Prod.fst).Nodup
  | ⟨kind, pos, stop, text, operator, type, contextualType, children⟩ => by
    rw [placesOf, List.map_cons, List.nodup_cons]
    refine ⟨fun h => ?_, nodup_placesFrom 0 children⟩
    obtain ⟨⟨place, v⟩, hplace, hnil⟩ := List.mem_map.1 h
    obtain ⟨j, rest, n, rfl, -⟩ := mem_placesFrom.1 hplace
    cases hnil

theorem nodup_placesFrom : ∀ (i : Nat) (ns : List Node), ((placesFrom i ns).map Prod.fst).Nodup
  | i, [] => by simp
  | i, n :: ns => by
    have hhere : (((placesOf n).map fun x => (i :: x.1, x.2)).map Prod.fst).Nodup := by
      have := (nodup_placesOf n).map (List.cons_injective (a := i))
      rwa [List.map_map] at this ⊢
    rw [placesFrom, List.map_append, List.nodup_append]
    refine ⟨hhere, nodup_placesFrom (i + 1) ns, ?_⟩
    -- places of later trees start with a larger number
    rintro _ hplace _ hother rfl
    obtain ⟨x, hx, rfl⟩ := List.mem_map.1 hplace
    obtain ⟨y, -, rfl⟩ := List.mem_map.1 hx
    obtain ⟨⟨place, v⟩, hz, hsame⟩ := List.mem_map.1 hother
    obtain ⟨j, rest, m, rfl, -⟩ := mem_placesFrom.1 hz
    have := (List.cons.inj hsame).1
    omega

end

theorem nodup_placesIn (ns : List Node) : ((placesIn ns).map Prod.fst).Nodup :=
  nodup_placesFrom 0 ns

/-! ## Nodes -/

def nodesIn (picks : Node → Bool) (ns : List Node) : List (List Nat × Node) :=
  (placesIn ns).filter fun x => picks x.2

theorem mem_nodesIn {picks : Node → Bool} {ns : List Node} {place : List Nat} {v : Node} :
    (place, v) ∈ nodesIn picks ns ↔ at? ns place = some v ∧ picks v = true := by
  rw [nodesIn, List.mem_filter, mem_placesIn]

theorem nodup_nodesIn (picks : Node → Bool) (ns : List Node) :
    ((nodesIn picks ns).map Prod.fst).Nodup :=
  (nodup_placesIn ns).sublist (List.filter_sublist.map _)

/-- What is made of the nodes that are picked is made of them by their places. -/
theorem map_nodesIn {β : Type} (picks : Node → Bool) (f : Node → β) (ns : List Node) :
    (nodesIn picks ns).map (fun x => f x.2) =
      (preorderOf ns).flatMap fun n => ([n].filter picks).map f := by
  have hfilter : ∀ vs : List Node,
      vs.flatMap (fun n => ([n].filter picks).map f) = (vs.filter picks).map f := by
    intro vs
    rw [← List.map_flatMap, ← List.filter_flatMap, List.flatMap_singleton']
  rw [hfilter, ← map_snd_placesIn, List.filter_map, List.map_map]
  rfl

/-! ## Children -/

/-- The places of the children that a question picks by their parent, their number and themselves,
parent by parent in preorder. -/
def childrenIn (picks : Node → Nat → Node → Bool) (ns : List Node) : List (List Nat × Node) :=
  (placesIn ns).flatMap fun x =>
    (x.2.children.zipIdx.filter fun c => picks x.2 c.2 c.1).map fun c => (x.1 ++ [c.2], c.1)

theorem mem_childrenIn {picks : Node → Nat → Node → Bool} {ns : List Node} {place : List Nat}
    {v : Node} : (place, v) ∈ childrenIn picks ns ↔
      ∃ parent n i, place = parent ++ [i] ∧ at? ns parent = some n ∧ n.children[i]? = some v ∧
        picks n i v = true := by
  rw [childrenIn, List.mem_flatMap]
  constructor
  · rintro ⟨⟨parent, n⟩, hparent, hv⟩
    obtain ⟨⟨w, i⟩, hw, hsame⟩ := List.mem_map.1 hv
    cases hsame
    obtain ⟨hchild, hpicks⟩ := List.mem_filter.1 hw
    exact ⟨parent, n, i, rfl, mem_placesIn.1 hparent, List.mem_zipIdx_iff_getElem?.1 hchild, hpicks⟩
  · rintro ⟨parent, n, i, rfl, hparent, hchild, hpicks⟩
    exact ⟨(parent, n), mem_placesIn.2 hparent, List.mem_map.2 ⟨(v, i),
      List.mem_filter.2 ⟨List.mem_zipIdx_iff_getElem?.2 hchild, hpicks⟩, rfl⟩⟩

theorem nodup_childrenIn (picks : Node → Nat → Node → Bool) (ns : List Node) :
    ((childrenIn picks ns).map Prod.fst).Nodup := by
  rw [childrenIn, List.map_flatMap, List.nodup_flatMap]
  constructor
  · rintro ⟨parent, n⟩ -
    have hnumbers : ((n.children.zipIdx.filter fun c => picks n c.2 c.1).map Prod.snd).Nodup := by
      have hall : (n.children.zipIdx.map Prod.snd).Nodup := by
        rw [List.zipIdx_map_snd]
        exact List.nodup_range'
      exact hall.sublist (List.filter_sublist.map _)
    have hplaces := hnumbers.map (f := fun i => parent ++ [i]) fun i j h => by simpa using h
    rw [List.map_map] at hplaces ⊢
    exact hplaces
  · have hparents := nodup_placesIn ns
    rw [List.Nodup, List.pairwise_map] at hparents
    refine hparents.imp fun {x y} hne => List.disjoint_left.2 fun place hx hy => ?_
    obtain ⟨v, hv, rfl⟩ := List.mem_map.1 hx
    obtain ⟨i, -, rfl⟩ := List.mem_map.1 hv
    obtain ⟨w, hw, hsame⟩ := List.mem_map.1 hy
    obtain ⟨j, -, rfl⟩ := List.mem_map.1 hw
    exact hne (List.append_inj_left' hsame rfl).symm

theorem map_childrenIn {β : Type} (picks : Node → Nat → Node → Bool) (f : Node → β)
    (ns : List Node) : (childrenIn picks ns).map (fun x => f x.2) =
      (preorderOf ns).flatMap fun n =>
        ((n.children.zipIdx.filter fun c => picks n c.2 c.1).map Prod.fst).map f := by
  rw [childrenIn, List.map_flatMap, ← map_snd_placesIn, List.flatMap_map]
  simp only [List.map_map]
  rfl

theorem filter_zipIdx_of_lt {i : Nat} (p : Node → Bool) {ns : List Node} {start : Nat}
    (h : i < start) : (ns.zipIdx start).filter (fun c => c.2 == i && p c.1) = [] := by
  refine List.filter_eq_nil_iff.2 fun c hc => ?_
  have hle := List.le_snd_of_mem_zipIdx hc
  have hne : ¬ c.2 = i := by omega
  simp [hne]

theorem filter_zipIdx_eq (p : Node → Bool) : ∀ (ns : List Node) (start i : Nat),
    ((ns.zipIdx start).filter fun c => c.2 == start + i && p c.1).map Prod.fst =
      ns[i]?.toList.filter p
  | [], _, _ => rfl
  | n :: ns, start, 0 => by
    rw [List.zipIdx_cons, List.filter_cons, Nat.add_zero,
      filter_zipIdx_of_lt p (Nat.lt_succ_self start), List.getElem?_cons_zero, Option.toList_some,
      List.filter_cons, List.filter_nil]
    cases p n <;> simp
  | n :: ns, start, i + 1 => by
    have hne : ¬ start = start + (i + 1) := by omega
    have hrest := filter_zipIdx_eq p ns (start + 1) i
    rw [show start + 1 + i = start + (i + 1) by omega] at hrest
    rw [List.zipIdx_cons, List.filter_cons_of_neg (by simp), hrest, List.getElem?_cons_succ]

theorem mem_childrenIn_at {i : Nat} {p : Node → Node → Bool} {ns : List Node} {place : List Nat}
    {v : Node} : (place, v) ∈ childrenIn (fun n j v => j == i && p n v) ns ↔
      ∃ parent n, place = parent ++ [i] ∧ at? ns parent = some n ∧ n.children[i]? = some v ∧
        p n v = true := by
  rw [mem_childrenIn]
  refine exists_congr fun parent => exists_congr fun n => ?_
  simp only [Bool.and_eq_true, beq_iff_eq]
  constructor
  · rintro ⟨j, hplace, hn, hv, rfl, hp⟩
    exact ⟨hplace, hn, hv, hp⟩
  · rintro ⟨hplace, hn, hv, hp⟩
    exact ⟨i, hplace, hn, hv, rfl, hp⟩

theorem map_childrenIn_at {β : Type} (i : Nat) (p : Node → Node → Bool) (f : Node → β)
    (ns : List Node) : (childrenIn (fun n j v => j == i && p n v) ns).map (fun x => f x.2) =
      (preorderOf ns).flatMap fun n => (n.children[i]?.toList.filter (p n)).map f := by
  rw [map_childrenIn]
  congr 1
  funext n
  have hone := filter_zipIdx_eq (p n) n.children 0 i
  rw [Nat.zero_add] at hone
  rw [hone]

theorem filter_zipIdx_arguments (p : Node → Bool) (n : Node) :
    (n.children.zipIdx.filter fun c => decide (1 ≤ c.2) && p c.1).map Prod.fst =
      n.arguments.filter p := by
  have hall : ∀ (ns : List Node) (start : Nat), 1 ≤ start →
      ((ns.zipIdx start).filter fun c => decide (1 ≤ c.2) && p c.1).map Prod.fst =
        ns.filter p := by
    intro ns
    induction ns with
    | nil => intros; rfl
    | cons m ns ih =>
      intro start hstart
      rw [List.zipIdx_cons, List.filter_cons, List.filter_cons, decide_eq_true hstart,
        Bool.true_and]
      cases p m <;> simp [ih (start + 1) (by omega)]
  unfold arguments
  cases n.children with
  | nil => rfl
  | cons callee rest =>
    rw [List.zipIdx_cons, List.filter_cons_of_neg (by simp)]
    exact hall rest 1 (Nat.le_refl 1)

end Node
end Conformance
