import Conformance.Proofs.Exemption.Loading
/-!
# The forms of exemptions

A rule's value is documented to be an entry, which is an object of its parts, or a list of such
entries (`IsDocumented`).  What is taken is more: an entry may be written as a row as well, a list of
its parts in order without their names (`IsRow`), alone or within a list (`isSome_entries?`).

So a value of another form than those documented gets no entry and one diagnostic, except where it
has rows and every pattern in it can be read: then it grants exemptions, and nothing is said
(`grantsByForm_iff`).
-/
namespace Conformance
namespace ExemptionFile

/-! ## Forms -/

def partNames : List String := ["reason", "paths", "prefixes", "regexps"]

inductive IsPart : String → Json → Prop where
  | noReason : IsPart "reason" .null
  | reason (s : String) : IsPart "reason" (.string s)
  | patterns {key : String} (ps : List String) : key ∈ ["paths", "prefixes", "regexps"] →
    IsPart key (.array (ps.map .string))

/-- An entry as an object of its parts. -/
def IsEntry (value : Json) : Prop :=
  ∃ members, value = .object members ∧ ∀ m ∈ members, IsPart m.1 m.2

/-- An entry as a list of its parts in order. -/
def IsRow (value : Json) : Prop :=
  ∃ items, value = .array items ∧ items.length ≤ partNames.length ∧
    ∀ m ∈ partNames.zip items, IsPart m.1 m.2

/-- A value of a form that is documented: an entry or a list of entries. -/
def IsDocumented (value : Json) : Prop :=
  IsEntry value ∨ ∃ items, value = .array items ∧ ∀ j ∈ items, IsEntry j

/-- A value of a form that is taken: an entry or a row, or a list of entries and rows. -/
def IsTaken (value : Json) : Prop :=
  (IsEntry value ∨ IsRow value) ∨
    ∃ items, value = .array items ∧ ∀ j ∈ items, IsEntry j ∨ IsRow j

theorem isSome_strings? : ∀ {js : List Json},
    (strings? js).isSome = true ↔ ∃ ps : List String, js = ps.map .string
  | [] => by simp [strings?]
  | .string s :: js => by
    rw [strings?, Option.isSome_map, isSome_strings?]
    constructor
    · rintro ⟨ps, rfl⟩
      exact ⟨s :: ps, rfl⟩
    · rintro ⟨_ | ⟨p, ps⟩, hps⟩
      · cases hps
      · exact ⟨ps, (List.cons.inj hps).2⟩
  | .null :: js | .bool _ :: js | .number _ :: js | .array _ :: js | .object _ :: js => by
    simp only [strings?, Option.isSome_none, Bool.false_eq_true, false_iff]
    rintro ⟨_ | ⟨p, ps⟩, hps⟩ <;> cases hps

theorem isSome_stringList? {value : Json} :
    (stringList? value).isSome = true ↔ ∃ ps : List String, value = .array (ps.map .string) := by
  cases value with
  | array js => simp [stringList?, isSome_strings?]
  | _ => simp [stringList?]

theorem isSome_reason? {value : Json} :
    (reason? value).isSome = true ↔ value = .null ∨ ∃ s, value = .string s := by
  cases value <;> simp [reason?]

theorem isPart_reason {value : Json} :
    IsPart "reason" value ↔ value = .null ∨ ∃ s, value = .string s := by
  constructor
  · rintro (_ | s | ⟨ps, hkey⟩)
    · exact .inl rfl
    · exact .inr ⟨s, rfl⟩
    · exact absurd hkey (by decide)
  · rintro (rfl | ⟨s, rfl⟩)
    · exact .noReason
    · exact .reason s

theorem isPart_patterns {key : String} (hkey : key ∈ ["paths", "prefixes", "regexps"])
    {value : Json} : IsPart key value ↔ ∃ ps : List String, value = .array (ps.map .string) := by
  constructor
  · rintro (_ | s | ⟨ps, -⟩)
    · exact absurd hkey (by decide)
    · exact absurd hkey (by decide)
    · exact ⟨ps, rfl⟩
  · rintro ⟨ps, rfl⟩
    exact .patterns ps hkey

theorem isSome_setPart {t : ExemptionText} {key : String} {value : Json} :
    (setPart t key value).isSome = true ↔ IsPart key value := by
  unfold setPart
  split
  · rw [Option.isSome_map, isSome_reason?, isPart_reason]
  · rw [Option.isSome_map, isSome_stringList?, isPart_patterns (by decide)]
  · rw [Option.isSome_map, isSome_stringList?, isPart_patterns (by decide)]
  · rw [Option.isSome_map, isSome_stringList?, isPart_patterns (by decide)]
  · rename_i hreason hpaths hprefixes hregexps
    simp only [Option.isSome_none, Bool.false_eq_true, false_iff]
    rintro (_ | _ | ⟨_, hkey⟩)
    · exact hreason rfl
    · exact hreason rfl
    · simp_all

theorem isSome_setParts : ∀ {t : ExemptionText} {parts : List (String × Json)},
    (setParts t parts).isSome = true ↔ ∀ m ∈ parts, IsPart m.1 m.2
  | t, [] => by simp [setParts]
  | t, (key, value) :: parts => by
    rw [setParts, List.forall_mem_cons, ← isSome_setPart (t := t)]
    cases setPart t key value with
    | none => simp
    | some t' =>
      rw [Option.bind_some, isSome_setParts]
      simp

/-- **An entry is read from an object of its parts or from a row of them.** -/
theorem isSome_entryOf? {value : Json} :
    (entryOf? value).isSome = true ↔ IsEntry value ∨ IsRow value := by
  cases value with
  | object members => simp [entryOf?, isSome_setParts, IsEntry, IsRow]
  | array items =>
    rw [entryOf?]
    split
    · rename_i hlength
      simp [isSome_setParts, IsEntry, IsRow, partNames, hlength]
    · rename_i hlength
      simp [IsEntry, IsRow, partNames, hlength]
  | _ => simp [entryOf?, IsEntry, IsRow]

theorem isSome_entriesOf? : ∀ {js : List Json},
    (entriesOf? js).isSome = true ↔ ∀ j ∈ js, IsEntry j ∨ IsRow j
  | [] => by simp [entriesOf?]
  | j :: js => by
    rw [List.forall_mem_cons, ← isSome_entryOf?, ← isSome_entriesOf?, entriesOf?]
    cases entryOf? j <;> cases entriesOf? js <;> simp

theorem isSome_entries? {value : Json} : (entries? value).isSome = true ↔ IsTaken value := by
  unfold entries? IsTaken
  rw [← isSome_entryOf?]
  cases hentry : entryOf? value with
  | some e => simp
  | none =>
    cases value with
    | array items => simp [isSome_entriesOf?]
    | _ => simp

theorem IsDocumented.isTaken {value : Json} (h : IsDocumented value) : IsTaken value :=
  h.imp .inl fun ⟨items, hvalue, hitems⟩ => ⟨items, hvalue, fun j hj => .inl (hitems j hj)⟩

/-! ## What is granted -/

def HasBadPattern (value : Json) : Prop :=
  ∃ texts e, entries? value = some texts ∧ buildAll texts = .error e

theorem entries?_ne_nil {value : Json} {texts : List ExemptionText}
    (h : entries? value = some texts) : texts ≠ [] := by
  rintro rfl
  unfold entries? at h
  cases hentry : entryOf? value with
  | some e =>
    rw [hentry] at h
    cases h
  | none =>
    rw [hentry] at h
    cases value with
    | array items =>
      cases items with
      -- the empty list does not get this far: it was read as a row
      | nil => cases hentry
      | cons j js =>
        dsimp only at h
        rw [entriesOf?] at h
        split at h <;> cases h
    | _ => cases h

theorem buildAll_ne_nil {texts : List ExemptionText} {entries : List ExemptionEntry}
    (h : buildAll texts = .ok entries) (hne : texts ≠ []) : entries ≠ [] := by
  rintro rfl
  cases texts with
  | nil => exact hne rfl
  | cons t ts =>
    rw [buildAll] at h
    split at h
    · cases h
    · split at h <;> cases h

/-- **A member has a fault, or its value is taken and it grants an entry.** -/
theorem ruleEntries_cases (key : String) (value : Json) :
    ((¬IsTaken value ∨ HasBadPattern value) ∧ ∃ message, ruleEntries key value = .error message) ∨
    (IsTaken value ∧ ¬HasBadPattern value ∧
      ∃ entries, ruleEntries key value = .ok entries ∧ entries ≠ []) := by
  unfold ruleEntries
  cases htexts : entries? value with
  | none =>
    refine .inl ⟨.inl fun htaken => ?_, _, rfl⟩
    rw [← isSome_entries?, htexts] at htaken
    cases htaken
  | some texts =>
    have htaken : IsTaken value := isSome_entries?.1 (by rw [htexts, Option.isSome_some])
    cases hbuild : buildAll texts with
    | error e =>
      refine .inl ⟨.inr ⟨texts, e, htexts, hbuild⟩, ?_⟩
      dsimp only
      rw [hbuild]
      exact ⟨_, rfl⟩
    | ok entries =>
      have hne := buildAll_ne_nil hbuild (entries?_ne_nil htexts)
      refine .inr ⟨htaken, ?_, entries, by dsimp only; rw [hbuild], hne⟩
      rintro ⟨texts', e, htexts', he⟩
      rw [htexts] at htexts'
      cases htexts'
      rw [hbuild] at he
      cases he

/-- Of the members of a text, this one grants by its form: its rule has no entry unless its value
is of a form that is documented, and where it is not there is one diagnostic for it. -/
def GrantsByForm (file : ProjectPath) (text : String) (member : String × Json) : Prop :=
  ((parse file text).list.entriesFor member.1 ≠ [] → IsDocumented member.2) ∧
  (¬IsDocumented member.2 → (parse file text).list.entriesFor member.1 = [] ∧
    ∃ d, (faults file text).filter (fun x => decide (x.1 = member.1)) = [(member.1, d)])

/-- **Only documented forms grant exemptions, rows apart.** For a text that is an object, the
diagnostics are those for the faults of its members, each told with its rule; and a member grants by
its form exactly when its value
- is of a form that is documented,
- or of one that is not taken at all,
- or has a pattern that cannot be read.

What is left are values with rows in them and no pattern that cannot be read. -/
theorem grantsByForm_iff (file : ProjectPath) (text : String) (members : List (String × Json))
    (h : Json.readDocument Json.readMembers text.toList = .ok members) :
    (parse file text).diagnostics = (faults file text).map Prod.snd ∧
    ∀ m ∈ members, GrantsByForm file text m ↔
      IsDocumented m.2 ∨ ¬IsTaken m.2 ∨ HasBadPattern m.2 := by
  refine ⟨by rw [parse_eq h], fun m hm => ?_⟩
  rw [GrantsByForm, entriesFor_parse h hm, filter_faults h hm, granted, fault?]
  rcases ruleEntries_cases m.1 m.2 with ⟨hbad, message, hmessage⟩ | ⟨htaken, hgood, entries, hok, hne⟩
  · rw [hmessage]
    exact ⟨fun _ => .inr hbad, fun _ => ⟨fun hne => absurd rfl hne, fun _ => ⟨rfl, _, rfl⟩⟩⟩
  · rw [hok]
    have hentries : (entries.map fun e => (m.1, e)).map Prod.snd ≠ [] := by simpa using hne
    constructor
    · rintro ⟨hdocumented, -⟩
      exact .inl (hdocumented hentries)
    · rintro (hdocumented | huntaken | hbad)
      · exact ⟨fun _ => hdocumented, fun hnot => absurd hdocumented hnot⟩
      · exact absurd htaken huntaken
      · exact absurd hbad hgood

/-! An entry and a number: the one is documented, the other is not taken. -/

def exemptionsPath : ProjectPath := .ofString "e.json"

def plainText : String :=
  "\x7b\"equals-nan\": \x7b\"paths\": [\"gen/*\"]\x7d, \"must-use-promises\": 5\x7d"

def entryMember : String × Json :=
  ("equals-nan", .object [("paths", .array [.string "gen/*"])])

def numberMember : String × Json := ("must-use-promises", .nat 5)

theorem isDocumented_entry : IsDocumented entryMember.2 := by
  refine .inl ⟨_, rfl, fun part hpart => ?_⟩
  obtain rfl := List.mem_singleton.1 hpart
  exact .patterns ["gen/*"] (by decide)

theorem not_isTaken_number : ¬IsTaken numberMember.2 := by
  rw [← isSome_entries?]
  exact Bool.false_ne_true

theorem grantsByForm_iff_plain :
    Json.readDocument Json.readMembers plainText.toList = .ok [entryMember, numberMember] ∧
    GrantsByForm exemptionsPath plainText entryMember ∧
    GrantsByForm exemptionsPath plainText numberMember := by
  have hread : Json.readDocument Json.readMembers plainText.toList =
      .ok [entryMember, numberMember] := by rfl
  obtain ⟨-, hforms⟩ := grantsByForm_iff exemptionsPath plainText _ hread
  exact ⟨hread, (hforms _ List.mem_cons_self).2 (.inl isDocumented_entry),
    (hforms _ (List.mem_cons_of_mem _ List.mem_cons_self)).2 (.inr (.inl not_isTaken_number))⟩

/-! A row: a reason, and the pattern of a directory. -/

def rowText : String := "\x7b\"equals-nan\": [\"why\", [\"src/**\"]]\x7d"

def rowMember : String × Json := ("equals-nan", .array [.string "why", .array [.string "src/**"]])

theorem not_isDocumented_row : ¬IsDocumented rowMember.2 := by
  rintro (⟨members, hobject, -⟩ | ⟨items, harray, hitems⟩)
  · cases hobject
  · cases harray
    obtain ⟨members, hobject, -⟩ := hitems _ List.mem_cons_self
    cases hobject

/-- A row is not documented; still its rule gets an exemption that covers files, and nothing is
said. -/
theorem not_grantsByForm_row :
    Json.readDocument Json.readMembers rowText.toList = .ok [rowMember] ∧
    (parse exemptionsPath rowText).list.isExempt "equals-nan" (.ofString "src/a.ts") = true ∧
    (parse exemptionsPath rowText).diagnostics = [] ∧
    ¬GrantsByForm exemptionsPath rowText rowMember := by
  have hread : Json.readDocument Json.readMembers rowText.toList = .ok [rowMember] := by rfl
  have hcovers : ((granted rowMember).map Prod.snd).any (·.covers (.ofString "src/a.ts")) = true := by
    decide +kernel
  have hfault : fault? exemptionsPath rowText.toList rowMember = none := by rfl
  have hentries : (parse exemptionsPath rowText).list.entriesFor "equals-nan" =
      (granted rowMember).map Prod.snd := entriesFor_parse hread List.mem_cons_self
  refine ⟨hread, ?_, ?_, fun hform => not_isDocumented_row (hform.1 ?_)⟩
  · rw [ExemptionList.isExempt, hentries]
    exact hcovers
  · rw [parse_eq hread]
    simp [faults, hread, byName, hfault]
  · intro hnil
    rw [← hentries, show "equals-nan" = rowMember.1 from rfl, hnil] at hcovers
    cases hcovers

end ExemptionFile
end Conformance
