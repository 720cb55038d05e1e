import Conformance.Proofs.Exemption.Loading
import Mathlib.Data.List.Forall2
/-!
# Rules are settled one by one

What a rule gets from an exemption file rests on the last value that its key has there, and on
nothing else in the file.  If the value is taken and every pattern in it can be read, the rule gets its
entries as they are written; if not, it gets none and there is one diagnostic for it.  So a fault
somewhere in a value costs all of its rule's exemptions, and no exemption of another rule.
-/
namespace Conformance

/-! ## Keys that are given more than once -/

namespace Json

variable {α : Type}

/-- The value of a key among the entries of an object: the last one that is given to it. -/
def lastValue? (key : String) (es : List (String × α)) : Option α :=
  (es.reverse.find? fun e => e.1 = key).map Prod.snd

theorem lastValue?_cons (key : String) (e : String × α) (es : List (String × α)) :
    lastValue? key (e :: es) = (lastValue? key es).or (if e.1 = key then some e.2 else none) := by
  rw [lastValue?, List.reverse_cons, List.find?_append, lastValue?]
  cases es.reverse.find? fun e => e.1 = key with
  | some e' => rfl
  | none => by_cases h : e.1 = key <;> simp [h]

/-- **An object has of each key the last value that is given to it.** -/
theorem lookup_settle (key : String) (es : List (String × α)) :
    lookup key (settle es) = lastValue? key es := by
  have hfold : ∀ es members : List (String × α),
      lookup key (es.foldl (fun members e => put e.1 e.2 members) members) =
        (lastValue? key es).or (lookup key members) := by
    intro es
    induction es with
    | nil => exact fun _ => rfl
    | cons e es ih =>
      intro members
      rw [List.foldl_cons, ih, lastValue?_cons, Option.or_assoc]
      congr 1
      by_cases h : e.1 = key
      · rw [if_pos h, ← h, lookup_put_self]
        rfl
      · rw [if_neg h, lookup_put_of_ne (Ne.symm h)]
        rfl
  rw [settle, hfold es [], lookup, Option.or_none]

theorem mem_settle_of_lastValue? {key : String} {value : α} {es : List (String × α)}
    (h : lastValue? key es = some value) : (key, value) ∈ settle es :=
  mem_of_lookup ((lookup_settle key es).trans h)

/-- A text is an object with these entries, in the order in which they are written. -/
def IsObject (text : List Char) (es : List (String × Json)) : Prop :=
  ∃ cs rest, skipGaps text = '\x7b' :: cs ∧
    entries (readValue (depthLimit - 1)) cs = .ok (es, rest) ∧ skipGaps rest = []

theorem readMembers_eq_ok {text rest : List Char} {members : List (String × Json)} :
    readMembers text = .ok (members, rest) ↔ ∃ cs es, skipGaps text = '\x7b' :: cs ∧
      entries (readValue (depthLimit - 1)) cs = .ok (es, rest) ∧ members = settle es := by
  unfold readMembers
  constructor
  · intro h
    split at h
    · cases h
    · rename_i cs hopen
      split at h
      · rename_i es rest' hentries
        cases h
        exact ⟨cs, es, hopen, hentries, rfl⟩
      · cases h
    · cases h
  · rintro ⟨cs, es, hopen, hentries, rfl⟩
    simp only [hopen, hentries]

theorem readDocument_readMembers_eq_ok {text : List Char} {members : List (String × Json)} :
    readDocument readMembers text = .ok members ↔ ∃ es, IsObject text es ∧ members = settle es := by
  constructor
  · intro h
    obtain ⟨rest, hread, hend⟩ := readDocument_eq_ok.1 h
    obtain ⟨cs, es, hopen, hentries, hmembers⟩ := readMembers_eq_ok.1 hread
    exact ⟨es, ⟨cs, rest, hopen, hentries, hend⟩, hmembers⟩
  · rintro ⟨es, ⟨cs, rest, hopen, hentries, hend⟩, hmembers⟩
    exact readDocument_eq_ok.2 ⟨rest, readMembers_eq_ok.2 ⟨cs, es, hopen, hentries, hmembers⟩, hend⟩

end Json

/-! ## Entries -/

def Glob.IsReadable (pattern : String) : Prop :=
  ∃ g, parse pattern = .ok g ∧ (g.way = .texts ∨ g.isTooDeep = false)

theorem Glob.refusal?_eq_none {gs : List Glob} :
    refusal? gs = none ↔ ∀ g ∈ gs, g.way = .texts ∨ g.isTooDeep = false := by
  have hrefused : ∀ g : Glob, (g.way = .texts ∨ g.isTooDeep = false) ↔
      (g.way == .alone && g.isTooDeep) = false ∧ (g.way == .together && g.isTooDeep) = false := by
    intro g
    cases g.way <;> cases g.isTooDeep <;> decide
  unfold refusal?
  simp only [hrefused]
  split
  · rename_i g hg
    have hfound := List.find?_some hg
    simp only [reduceCtorEq, false_iff, not_forall]
    exact ⟨g, List.mem_of_find?_eq_some hg, fun h => by rw [hfound] at h; cases h.1⟩
  · rename_i hnone
    have halone : ∀ g ∈ gs, (g.way == .alone && g.isTooDeep) = false := by
      simpa using List.find?_eq_none.1 hnone
    split
    · rename_i i hi
      obtain ⟨hlt, hdeep, -⟩ := List.findIdx?_eq_some_iff_getElem.1 hi
      obtain ⟨hmem, htogether⟩ := List.mem_filter.1 (List.getElem_mem hlt)
      simp only [reduceCtorEq, false_iff, not_forall]
      exact ⟨_, hmem, fun h => by rw [htogether, hdeep] at h; cases h.2⟩
    · rename_i hi
      simp only [true_iff]
      refine fun g hg => ⟨halone g hg, ?_⟩
      rw [List.findIdx?_eq_none_iff] at hi
      cases htogether : g.way == .together with
      | false => rfl
      | true => exact hi g (List.mem_filter.2 ⟨hg, htogether⟩)

namespace ExemptionText

structure IsReadable (t : ExemptionText) : Prop where
  paths : ∀ p ∈ t.paths, Glob.IsReadable p
  regexps : ∀ p ∈ t.regexps, ∃ r, Regex.Regexp.parse p = .ok r

/-- An entry is the one that is written, with its patterns read one by one and the directories that
cover something. -/
structure IsRead (t : ExemptionText) (e : ExemptionEntry) : Prop where
  reason : e.reason = t.reason
  globs : List.Forall₂ (fun p g => Glob.parse p = .ok g) t.paths e.globs
  directories : e.directories = ExemptionEntry.namedDirectories t.prefixes
  regexps : List.Forall₂ (fun p r => Regex.Regexp.parse p = .ok r) t.regexps e.regexps

end ExemptionText

theorem forall₂_of_reader {α β ε : Type} (all : List α → Except ε (List β)) {one : α → β → Prop}
    (hnil : all [] = .ok []) (hcons : ∀ a as bs, all (a :: as) = .ok bs ↔
      ∃ b bs', bs = b :: bs' ∧ one a b ∧ all as = .ok bs') :
    ∀ {as : List α} {bs : List β}, all as = .ok bs ↔ List.Forall₂ one as bs
  | [], bs => by
    rw [hnil, List.forall₂_nil_left_iff]
    exact ⟨fun h => (Except.ok.inj h).symm, fun h => by rw [h]⟩
  | a :: as, bs => by
    rw [hcons, List.forall₂_cons_left_iff]
    constructor
    · rintro ⟨b, bs', rfl, hone, hall⟩
      exact ⟨b, bs', hone, (forall₂_of_reader all hnil hcons).1 hall, rfl⟩
    · rintro ⟨b, bs', hone, hall, rfl⟩
      exact ⟨b, bs', rfl, hone, (forall₂_of_reader all hnil hcons).2 hall⟩

section

variable {α β : Type} {R : α → β → Prop}

theorem exists_of_forall₂_left {as : List α} {bs : List β} (h : List.Forall₂ R as bs) {a : α}
    (ha : a ∈ as) : ∃ b ∈ bs, R a b := by
  induction h with
  | nil => cases ha
  | cons hab _ ih =>
    rcases List.mem_cons.1 ha with rfl | ha
    · exact ⟨_, List.mem_cons_self, hab⟩
    · obtain ⟨b, hb, hR⟩ := ih ha
      exact ⟨b, List.mem_cons_of_mem _ hb, hR⟩

theorem exists_of_forall₂_right {as : List α} {bs : List β} (h : List.Forall₂ R as bs) {b : β}
    (hb : b ∈ bs) : ∃ a ∈ as, R a b := exists_of_forall₂_left h.flip hb

theorem exists_forall₂_of_forall : ∀ {as : List α}, (∀ a ∈ as, ∃ b, R a b) →
    ∃ bs, List.Forall₂ R as bs
  | [], _ => ⟨[], .nil⟩
  | a :: as, h => by
    obtain ⟨b, hb⟩ := h a List.mem_cons_self
    obtain ⟨bs, hbs⟩ := exists_forall₂_of_forall fun a' ha => h a' (List.mem_cons_of_mem a ha)
    exact ⟨b :: bs, .cons hb hbs⟩

end

namespace ExemptionEntry

theorem readGlobs_eq_ok {ps : List String} {gs : List Glob} :
    readGlobs ps = .ok gs ↔ List.Forall₂ (fun p g => Glob.parse p = .ok g) ps gs := by
  refine forall₂_of_reader readGlobs rfl fun p ps gs => ?_
  rw [readGlobs]
  cases Glob.parse p with
  | error e => simp
  | ok g => cases readGlobs ps <;> simp [@eq_comm _ gs]

theorem readRegexps_eq_ok {ps : List String} {rs : List Regex.Regexp} :
    readRegexps ps = .ok rs ↔ List.Forall₂ (fun p r => Regex.Regexp.parse p = .ok r) ps rs := by
  refine forall₂_of_reader readRegexps rfl fun p ps rs => ?_
  rw [readRegexps]
  cases Regex.Regexp.parse p with
  | error e => simp
  | ok r => cases readRegexps ps <;> simp [@eq_comm _ rs]

theorem isRead_of_ofText {t : ExemptionText} {e : ExemptionEntry} (h : ofText t = .ok e) :
    t.IsReadable ∧ t.IsRead e := by
  unfold ofText at h
  split at h
  · cases h
  · rename_i gs hgs
    split at h
    · cases h
    · rename_i hrefusal
      split at h
      · cases h
      · rename_i rs hrs
        cases h
        have hglobs := readGlobs_eq_ok.1 hgs
        have hregexps := readRegexps_eq_ok.1 hrs
        refine ⟨⟨fun p hp => ?_, fun p hp => ?_⟩, rfl, hglobs, rfl, hregexps⟩
        · obtain ⟨g, hg, hparse⟩ := exists_of_forall₂_left hglobs hp
          exact ⟨g, hparse, Glob.refusal?_eq_none.1 hrefusal g hg⟩
        · obtain ⟨r, -, hparse⟩ := exists_of_forall₂_left hregexps hp
          exact ⟨r, hparse⟩

theorem exists_ofText {t : ExemptionText} (h : t.IsReadable) : ∃ e, ofText t = .ok e := by
  obtain ⟨gs, hgs⟩ := exists_forall₂_of_forall fun p hp =>
    let ⟨g, hparse, _⟩ := h.paths p hp
    ⟨g, hparse⟩
  obtain ⟨rs, hrs⟩ := exists_forall₂_of_forall h.regexps
  have hrefusal : Glob.refusal? gs = none := by
    refine Glob.refusal?_eq_none.2 fun g hg => ?_
    obtain ⟨p, hp, hparse⟩ := exists_of_forall₂_right hgs hg
    obtain ⟨g', hparse', hdecided⟩ := h.paths p hp
    cases hparse.symm.trans hparse'
    exact hdecided
  refine ⟨⟨t.reason, gs, namedDirectories t.prefixes, rs⟩, ?_⟩
  simp only [ofText, readGlobs_eq_ok.2 hgs, hrefusal, readRegexps_eq_ok.2 hrs]

end ExemptionEntry

namespace ExemptionFile

def faultsOf (file : ProjectPath) (text key : String) : List (String × Diagnostic) :=
  (faults file text).filter fun x => decide (x.1 = key)

/-- **What the value of a key comes to**: all of its entries, in order, or one diagnostic. -/
structure Settles (file : ProjectPath) (text key : String) (value : Json) : Prop where
  granted : ∀ ts, entries? value = some ts → (∀ t ∈ ts, t.IsReadable) →
    List.Forall₂ ExemptionText.IsRead ts ((parse file text).list.entriesFor key) ∧
      faultsOf file text key = []
  refused : (∀ ts, entries? value = some ts → ∃ t ∈ ts, ¬t.IsReadable) →
    (parse file text).list.entriesFor key = [] ∧ ∃ d, faultsOf file text key = [(key, d)]

section

variable {file : ProjectPath} {text : String} {es : List (String × Json)}
  (h : Json.IsObject text.toList es)

include h

theorem readDocument_of_isObject :
    Json.readDocument Json.readMembers text.toList = .ok (Json.settle es) :=
  Json.readDocument_readMembers_eq_ok.2 ⟨es, h, rfl⟩

variable {key : String}

end

end ExemptionFile
end Conformance
