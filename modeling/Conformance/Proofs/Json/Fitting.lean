import Conformance.Proofs.Json.RoundTrip
/-!
# What is read fits

A reader that follows a schema gives data of that schema: every datum it accepts fits its shape, in
the room for brackets that the reader had (`fits_of_readShape`).  So what was read once can be
written and read again, and is never too deep for it.

Only the defaults could break this, because they come from the schema and not from the text.  A
default that is left out again takes no room; one that is written has to fit in the room that its
record has left.  A record that nests at any depth can have defaults of the first kind only, one
that stands at the top of its document has room for the others.
-/
namespace Conformance.Json

variable {ρ : Type} {schema : ρ → Layout ρ}

/-! ## Values of one token -/

theorem settleName_settled {names : List String} {other : Option String} {name settled : String}
    (h : settleName names other name = some settled) :
    settleName names other settled = some settled := by
  unfold settleName at h ⊢
  split at h
  · rename_i hmem
    cases h
    rw [if_pos hmem]
  · rw [h, ite_self]

theorem readName_ok {names : List String} {other : Option String} {cs rest : List Char} {d : Datum}
    (h : readName names other cs = .ok (d, rest)) :
    ∃ name, d = .choice name ∧ settleName names other name = some name := by
  unfold readName at h
  split at h
  · cases h
  · split at h
    · rename_i name hname
      cases h
      exact ⟨name, rfl, settleName_settled hname⟩
    · cases h

theorem readNameObject_ok {names : List String} {other : Option String} {cs rest : List Char}
    {d : Datum} (h : readNameObject names other cs = .ok (d, rest)) :
    ∃ name, d = .choice name ∧ settleName names other name = some name := by
  unfold readNameObject at h
  split at h
  · cases h
  · split at h
    · cases h
    · rename_i d' _ hname
      split at h
      · cases h
      · split at h
        · cases h
        · unfold closeChoice at h
          split at h
          · cases h
          · cases h
            exact readName_ok hname
          · cases h
  · cases h
  · cases h

theorem readText_ok {cs rest : List Char} {d : Datum} (h : readText cs = .ok (d, rest)) :
    ∃ t, d = .text t := by
  unfold readText at h
  split at h
  · cases h
  · split at h
    · cases h
      exact ⟨_, rfl⟩
    · cases h
  · cases h

theorem readFlag_ok {cs rest : List Char} {d : Datum} (h : readFlag cs = .ok (d, rest)) :
    ∃ b, d = .flag b := by
  unfold readFlag at h
  split at h
  · cases h
  · split at h
    · cases h
      exact ⟨_, rfl⟩
    · cases h
  · split at h
    · cases h
      exact ⟨_, rfl⟩
    · cases h
  · cases h

theorem settleWord_ok {number : Except Stop (Number × List Char)} {rest : List Char} {d : Datum}
    (h : settleWord number = .ok (d, rest)) : ∃ n, d = .word n := by
  unfold settleWord at h
  split at h
  · cases h
  · split at h
    · cases h
      exact ⟨_, rfl⟩
    · cases h
  · cases h
  · cases h

theorem readWord_ok {cs rest : List Char} {d : Datum} (h : readWord cs = .ok (d, rest)) :
    ∃ n, d = .word n := by
  unfold readWord at h
  split at h
  · cases h
  · exact settleWord_ok h
  · split at h
    · exact settleWord_ok h
    · cases h

/-! ## Lists and records

What a reader of lists or records gives was given by the readers of its parts. -/

def Gives (read : List Char → Except Stop (Datum × List Char)) (d : Datum) : Prop :=
  ∃ cs rest, read cs = .ok (d, rest)

theorem itemsSteps_ok {read : List Char → Except Stop (Datum × List Char)} :
    ∀ {n : Nat} {first : Bool} {cs rest : List Char} {ds : List Datum},
      itemsSteps read n first cs = .ok (ds, rest) → ∀ d ∈ ds, Gives read d
  | 0, _, _, _, _, h => by cases h
  | n + 1, first, cs, rest, ds, h => by
    rw [itemsSteps] at h
    split at h
    · cases h
    · cases h
      exact fun d hd => by cases hd
    · split at h
      · cases h
      · rename_i d' _ hitem
        split at h
        · cases h
        · rename_i hrest
          cases h
          intro d hd
          rcases List.mem_cons.1 hd with rfl | hd
          · exact ⟨_, _, hitem⟩
          · exact itemsSteps_ok hrest d hd

/-- What a field of a record comes to: what its reader gives, or its default. -/
def Field.Settles (value : Field ρ → List Char → Except Stop (Datum × List Char)) (f : Field ρ)
    (d : Datum) : Prop := Gives (value f) d ∨ f.absent = some d

theorem absentItems_ok {layout : Layout ρ} {rest : List Char} :
    ∀ {i : Nat} {fs : List (Field ρ)} {ds : List Datum},
      absentItems layout rest i fs = .ok ds → List.Forall₂ (fun f d => f.absent = some d) fs ds
  | _, [], _, h => by
    cases h
    exact .nil
  | i, f :: fs, ds, h => by
    rw [absentItems] at h
    split at h
    · cases h
    · rename_i habsent
      split at h
      · cases h
      · rename_i hrest
        cases h
        exact .cons habsent (absentItems_ok hrest)

theorem listForm_ok {layout : Layout ρ}
    {value : Field ρ → List Char → Except Stop (Datum × List Char)} :
    ∀ {i : Nat} {first : Bool} {fs : List (Field ρ)} {cs rest : List Char} {ds : List Datum},
      listForm layout value i first fs cs = .ok (ds, rest) →
        List.Forall₂ (Field.Settles value) fs ds
  | _, _, [], _, _, _, h => by
    rw [listForm] at h
    split at h
    · cases h
    · cases h
      exact .nil
  | i, first, f :: fs, cs, rest, ds, h => by
    rw [listForm] at h
    split at h
    · cases h
    · split at h
      · cases h
      · rename_i habsent
        cases h
        exact (absentItems_ok habsent).imp fun _ _ => .inr
    · split at h
      · cases h
      · rename_i hvalue
        split at h
        · cases h
        · rename_i hrest
          cases h
          exact .cons (.inl ⟨_, _, hvalue⟩) (listForm_ok hrest)

theorem objectForm_ok {layout : Layout ρ}
    {value : Field ρ → List Char → Except Stop (Datum × List Char)} :
    ∀ {n : Nat} {first : Bool} {seen seen' : List (String × Datum)} {cs rest : List Char},
      objectForm layout value n first seen cs = .ok (seen', rest) → ∀ x ∈ seen', x ∈ seen ∨
        ∃ f ∈ layout.fields, f.key = x.1 ∧ Gives (value f) x.2
  | 0, _, _, _, _, _, h => by cases h
  | n + 1, first, seen, seen', cs, rest, h => by
    rw [objectForm] at h
    split at h
    · cases h
    · cases h
      exact fun x hx => .inl hx
    · split at h
      · cases h
      · dsimp only at h
        split at h
        · split at h
          · cases h
          · split at h
            · cases h
            · exact objectForm_ok h
        · rename_i f hfind
          split at h
          · cases h
          · split at h
            · cases h
            · split at h
              · cases h
              · rename_i hvalue
                intro x hx
                rcases objectForm_ok h x hx with hx | hx
                · rcases List.mem_cons.1 hx with rfl | hx
                  · have hkey := List.find?_some hfind
                    exact .inr ⟨f, List.mem_of_find?_eq_some hfind, by simpa using hkey, _, _,
                      hvalue⟩
                  · exact .inl hx
                · exact .inr hx

theorem settleFields_ok {seen : List (String × Datum)} {rest : List Char} :
    ∀ {fs : List (Field ρ)} {ds : List Datum}, settleFields seen rest fs = .ok ds →
      List.Forall₂ (fun f d => (lookup f.key seen).or f.absent = some d) fs ds
  | [], _, h => by
    cases h
    exact .nil
  | f :: fs, ds, h => by
    rw [settleFields] at h
    split at h
    · cases h
    · rename_i hd
      split at h
      · cases h
      · rename_i hrest
        cases h
        exact .cons hd (settleFields_ok hrest)

theorem mem_of_lookup {α : Type} {key : String} {v : α} : ∀ {es : List (String × α)},
    lookup key es = some v → (key, v) ∈ es
  | [], h => by cases h
  | (k, w) :: es, h => by
    rw [lookup] at h
    split at h
    · rename_i hk
      cases h
      rw [hk]
      exact List.mem_cons_self
    · exact List.mem_cons_of_mem _ (mem_of_lookup h)

theorem recordObject_ok {layout : Layout ρ} (honce : (layout.fields.map (·.key)).Nodup)
    {value : Field ρ → List Char → Except Stop (Datum × List Char)} {cs rest : List Char}
    {d : Datum} (h : recordObject layout value cs = .ok (d, rest)) :
    ∃ ds, d = .record ds ∧ List.Forall₂ (Field.Settles value) layout.fields ds := by
  unfold recordObject at h
  split at h
  · cases h
  · rename_i seen _ hseen
    split at h
    · cases h
    · rename_i ds hds
      cases h
      refine ⟨ds, rfl, List.forall₂_iff_zip.2 ⟨(settleFields_ok hds).length_eq, ?_⟩⟩
      intro f d hzip
      have hfield := (List.forall₂_iff_zip.1 (settleFields_ok hds)).2 hzip
      cases hlookup : lookup f.key seen with
      | none =>
        rw [hlookup] at hfield
        exact .inr hfield
      | some d' =>
        rw [hlookup] at hfield
        cases hfield
        rcases objectForm_ok hseen _ (mem_of_lookup hlookup) with hnil | ⟨g, hg, hkey, hgives⟩
        · cases hnil
        · -- one key is one field
          cases List.inj_on_of_nodup_map honce hg (List.of_mem_zip hzip).1 hkey
          exact .inl hgives

theorem recordList_ok {layout : Layout ρ}
    {value : Field ρ → List Char → Except Stop (Datum × List Char)} {cs rest : List Char}
    {d : Datum} (h : recordList layout value cs = .ok (d, rest)) :
    ∃ ds, d = .record ds ∧ List.Forall₂ (Field.Settles value) layout.fields ds := by
  unfold recordList at h
  split at h
  · cases h
  · rename_i hlist
    cases h
    exact ⟨_, rfl, listForm_ok hlist⟩

theorem nullOr_ok {read : List Char → Except Stop (Datum × List Char)} {nullable : Bool}
    {d : Datum} (h : Gives (nullOr read nullable) d) :
    nullable = true ∧ d = .null ∨ Gives read d := by
  obtain ⟨cs, rest, h⟩ := h
  unfold nullOr at h
  split at h
  · rename_i hnull
    split at h
    · split at h
      · cases h
        exact .inl ⟨hnull, rfl⟩
      · cases h
    · exact .inr ⟨_, _, h⟩
  · exact .inr ⟨_, _, h⟩

/-! ## Shapes -/

/-- All records that a shape names are of a kind. -/
def Shape.Names (nested : ρ → Prop) : Shape ρ → Prop
  | .list item => item.Names nested
  | .record r => nested r
  | _ => True

/-- The defaults of a record are left out again, or fit in the room that is left for its fields. -/
def Layout.DefaultsFit (schema : ρ → Layout ρ) (room : Nat) (layout : Layout ρ) : Prop :=
  ∀ f ∈ layout.fields, ∀ d, f.absent = some d → f.Waives d ∨ Fits schema room f.shape d

/-- Records of a kind may nest at any depth: they name each other only, and their defaults fit
wherever they stand. -/
structure Nests (schema : ρ → Layout ρ) (nested : ρ → Prop) : Prop where
  names : ∀ r, nested r → ∀ f ∈ (schema r).fields, f.shape.Names nested
  defaults : ∀ r, nested r → ∀ room, (schema r).DefaultsFit schema room

theorem fits_record {room : Nat} {r : ρ} {d : Datum}
    (hdefaults : (schema r).DefaultsFit schema room)
    (hfields : ∀ f ∈ (schema r).fields, ∀ x, Gives (readShape schema room f.shape) x →
      Fits schema room f.shape x)
    (h : ∃ ds, d = .record ds ∧ List.Forall₂ (Field.Settles fun f =>
      nullOr (readShape schema room f.shape) f.nullable) (schema r).fields ds) :
    Fits schema (room + 1) (.record r) d := by
  obtain ⟨ds, rfl, hds⟩ := h
  refine ⟨ds, rfl, List.forall₂_iff_zip.2 ⟨hds.length_eq, ?_⟩⟩
  intro f x hzip
  have hf := (List.of_mem_zip hzip).1
  rcases (List.forall₂_iff_zip.1 hds).2 hzip with hgives | habsent
  · rcases nullOr_ok hgives with hnull | hgives
    · exact .inl (.inl hnull)
    · exact .inr (hfields f hf x hgives)
  · exact hdefaults f hf x habsent

theorem readShape_record_ok {room : Nat} {r : ρ} (honce : ((schema r).fields.map (·.key)).Nodup)
    {cs rest : List Char} {d : Datum}
    (h : readShape schema room (.record r) cs = .ok (d, rest)) :
    ∃ room', room = room' + 1 ∧ ∃ ds, d = .record ds ∧ List.Forall₂ (Field.Settles fun f =>
      nullOr (readShape schema room' f.shape) f.nullable) (schema r).fields ds := by
  rw [readShape.eq_def] at h
  dsimp only at h
  split at h
  · cases h
  · cases room with
    | zero => cases h
    | succ room => exact ⟨room, rfl, recordList_ok h⟩
  · cases room with
    | zero => cases h
    | succ room => exact ⟨room, rfl, recordObject_ok honce h⟩
  · cases h

/-- **What is read fits its shape**, in the room that there was. -/
theorem fits_of_readShape {nested : ρ → Prop} (hnests : Nests schema nested)
    (hschema : ∀ r, (schema r).IsSound) : ∀ (room : Nat) (shape : Shape ρ) {cs rest : List Char}
    {d : Datum}, shape.Names nested → readShape schema room shape cs = .ok (d, rest) →
      Fits schema room shape d
  | _, .text, _, _, _, _, h => by
    rw [readShape] at h
    rw [Fits]
    exact readText_ok h
  | _, .flag, _, _, _, _, h => by
    rw [readShape] at h
    rw [Fits]
    exact readFlag_ok h
  | _, .word, _, _, _, _, h => by
    rw [readShape] at h
    rw [Fits]
    exact readWord_ok h
  | room, .choice names other, _, _, _, _, h => by
    rw [readShape] at h
    rw [Fits]
    split at h
    · cases h
    · exact readName_ok h
    · cases room with
      | zero => cases h
      | succ room => exact readNameObject_ok h
    · cases h
  | 0, .list item, _, _, _, _, h => by
    rw [readShape] at h
    split at h <;> cases h
  | room + 1, .list item, _, _, _, hnames, h => by
    rw [readShape] at h
    split at h
    · cases h
    · dsimp only at h
      split at h
      · rename_i hitems
        cases h
        refine ⟨_, rfl, fun d hd => ?_⟩
        obtain ⟨cs, rest, hread⟩ := itemsSteps_ok hitems d hd
        exact fits_of_readShape hnests hschema room item hnames hread
      · cases h
    · cases h
  | 0, .record r, _, _, _, _, h => by
    obtain ⟨room, hroom, -⟩ := readShape_record_ok (hschema r).once h
    cases hroom
  | room + 1, .record r, _, _, _, hnested, h => by
    obtain ⟨room', hroom, hrecord⟩ := readShape_record_ok (hschema r).once h
    cases hroom
    refine fits_record (hnests.defaults r hnested room) (fun f hf x hx => ?_) hrecord
    obtain ⟨cs, rest, hread⟩ := hx
    exact fits_of_readShape hnests hschema room f.shape (hnests.names r hnested f hf) hread

theorem readDocument_eq_ok {α : Type} {read : List Char → Except Stop (α × List Char)}
    {text : List Char} {a : α} : readDocument read text = .ok a ↔
      ∃ rest, read text = .ok (a, rest) ∧ skipGaps rest = [] := by
  unfold readDocument finish
  constructor
  · intro h
    split at h
    · rename_i hfinish
      cases h
      split at hfinish
      · cases hfinish
      · rename_i hread
        split at hfinish
        · rename_i hend
          cases hfinish
          exact ⟨_, hread, hend⟩
        · cases hfinish
    · cases h
  · rintro ⟨rest, hread, hend⟩
    simp only [hread, hend]

theorem readDocument_ok {α : Type} {read : List Char → Except Stop (α × List Char)}
    {text : List Char} {a : α} (h : readDocument read text = .ok a) :
    ∃ rest, read text = .ok (a, rest) :=
  let ⟨rest, hread, _⟩ := readDocument_eq_ok.1 h
  ⟨rest, hread⟩

theorem fits_of_readRecord {nested : ρ → Prop} (hnests : Nests schema nested)
    (hschema : ∀ r, (schema r).IsSound) {r : ρ}
    (hnames : ∀ f ∈ (schema r).fields, f.shape.Names nested)
    (hdefaults : (schema r).DefaultsFit schema (depthLimit - 1)) {text : List Char} {d : Datum}
    (h : readRecord schema r text = .ok d) : Fits schema depthLimit (.record r) d := by
  obtain ⟨rest, hread⟩ := readDocument_ok h
  obtain ⟨room, hroom, hrecord⟩ := readShape_record_ok (hschema r).once hread
  cases hroom
  refine fits_record hdefaults (fun f hf x hx => ?_) hrecord
  obtain ⟨cs, rest, hx⟩ := hx
  exact fits_of_readShape hnests hschema _ f.shape (hnames f hf) hx

end Conformance.Json
