import Conformance.Proofs.Exemption.Settling
import Conformance.Proofs.Json.Passing
import Conformance.Rule.Catalog
/-!
# Where the fault of a rule is reported

The fault of a rule is looked for by the text of its key: the quoted name with a colon behind it.
In a text whose strings stand apart, a name without quotes, backslashes, commas and colons
(`IsPlainName`), as all rules have, is found in this way where the first key stands that is written
like it (`keyOffset?_eq`): a match that starts with an escaped quote is passed over, and one that
starts where a string ends would have to hold the comma or colon between two strings.

The search does not see whose key it has found. So the fault of a rule is reported at a key of the
file's object exactly if of all keys of the file that are written like the rule's name the first
is one of the object's (`reportsAtKey_iff`).
-/
namespace Conformance.ExemptionFile

open Text (byteLength)
open Json (KeyPlace keysFrom keysOf ColonNext Lexed Parted Guarded readString)

/-! ## Names -/

/-- A character that is written as it is and does not part two strings. -/
def isPlain (c : Char) : Bool := c != '"' && c != '\\' && c != ',' && c != ':'

/-- A name that is written as it is and stands in no text between two strings. -/
def IsPlainName (key : String) : Prop := key.toList.all isPlain = true

instance (key : String) : Decidable (IsPlainName key) := inferInstanceAs (Decidable (_ = _))

theorem isPlainName_name (r : Rule) : IsPlainName r.name := by
  cases r with
  | trustedSink k => cases k <;> decide
  | equalsNan => decide
  | stringSets => decide
  | usePromises => decide

/-! ## Searching a text -/

/-- Every quote of a text behind `before` has a backslash in front of it. -/
def GuardedBehind (before : Char) (cs : List Char) : Prop :=
  ∀ front back, cs = front ++ '"' :: back → (before :: front).getLast? = some '\\'

theorem GuardedBehind.of_guarded {cs : List Char} (h : Guarded cs) (before : Char) :
    GuardedBehind before cs := by
  intro front back heq
  have hlast := h front back heq
  cases front with
  | nil => cases hlast
  | cons c front => rw [List.getLast?_cons_cons, hlast]

theorem GuardedBehind.tail {before c : Char} {cs : List Char} (h : GuardedBehind before (c :: cs)) :
    GuardedBehind c cs := by
  intro front back heq
  have hlast := h (c :: front) back (by rw [heq]; rfl)
  rwa [List.getLast?_cons_cons] at hlast

theorem findKey_skip (name : List Char) (before : Option Char) (offset : Nat) (front : List Char)
    (c : Char) (back : List Char) :
    findKey name before offset (front.length + 1) (front ++ c :: back) =
      findKey name (some c) (offset + byteLength front + c.utf8Size) 0 back := by
  induction front generalizing before offset with
  | nil => rfl
  | cons d front ih =>
    rw [List.cons_append, List.length_cons, findKey, ih, Text.byteLength_cons]
    congr 1
    omega

def quoted (key : List Char) : List Char := '"' :: key ++ ['"']

theorem findKey_passing {name : List Char} {c : Char} {cs : List Char}
    (h : ¬name <+: c :: cs) (before : Option Char) (offset : Nat) :
    findKey name before offset 0 (c :: cs) =
      findKey name (some c) (offset + c.utf8Size) 0 cs := by
  rw [findKey, if_neg (by rwa [List.isPrefixOf_iff_prefix])]

theorem quoted_prefix_cons {key : List Char} {c : Char} {cs : List Char} :
    quoted key <+: c :: cs ↔ c = '"' ∧ key ++ ['"'] <+: cs := by
  rw [quoted, List.cons_append, List.cons_prefix_cons, eq_comm]

/-- Where the quoted name stands, either a colon follows and the name is found, or the search goes
on behind it. -/
theorem findKey_quoted (key rest : List Char) (before : Option Char) (offset : Nat) :
    findKey (quoted key) before offset 0 ('"' :: (key ++ '"' :: rest)) =
      if before ≠ some '\\' ∧ (Text.trimStart rest).head? = some ':' then some offset
      else findKey (quoted key) (some '"') (offset + (1 + byteLength key + 1)) 0 rest := by
  have hprefix : (quoted key).isPrefixOf ('"' :: (key ++ '"' :: rest)) = true := by
    rw [List.isPrefixOf_iff_prefix, quoted_prefix_cons]
    exact ⟨rfl, rest, by rw [List.append_assoc, List.singleton_append]⟩
  have hlength : (quoted key).length = key.length + 1 + 1 := by
    rw [quoted, List.length_append, List.length_cons, List.length_singleton]
  have hdrop : ('"' :: (key ++ '"' :: rest)).drop (key.length + 1 + 1) = rest := by
    rw [List.drop_succ_cons, Nat.add_comm, ← List.drop_drop]
    simp
  have hskip := findKey_skip (quoted key) (some '"') (offset + 1) key '"' rest
  have hquote : Char.utf8Size '"' = 1 := rfl
  rw [findKey, if_pos hprefix, hlength, hdrop, Nat.add_sub_cancel, hquote, hskip, hquote,
    Nat.add_assoc, Nat.add_assoc, Nat.add_assoc]

section

variable {key : List Char} (hplain : key.all isPlain = true)

include hplain

theorem not_mem_of_plain {c : Char} (hc : isPlain c = false) : c ∉ key := fun hmem => by
  rw [List.all_eq_true.1 hplain c hmem] at hc
  cases hc

/-- **A quoted name is all that is written up to a quote** that has no backslash in front of it. -/
theorem eq_of_prefix_quote {before : Char} {written rest : List Char} (hbefore : before ≠ '\\')
    (hguarded : GuardedBehind before written)
    (h : key ++ ['"'] <+: written ++ '"' :: rest) : key = written := by
  obtain ⟨behind, heq⟩ := h
  rw [List.append_assoc, List.singleton_append] at heq
  rcases List.append_eq_append_iff.1 heq with ⟨more, hwritten, hmore⟩ | ⟨more, hkey, hmore⟩
  · cases more with
    | nil => rw [hwritten, List.append_nil]
    | cons c more =>
      rw [List.cons_append, List.cons.injEq] at hmore
      rw [← hmore.1] at hwritten
      have hlast := List.mem_of_getLast? (hguarded key more hwritten)
      rcases List.mem_cons.1 hlast with hlast | hlast
      · exact absurd hlast.symm hbefore
      · exact absurd hlast (not_mem_of_plain hplain rfl)
  · cases more with
    | nil => rw [hkey, List.append_nil]
    | cons c more =>
      rw [List.cons_append, List.cons.injEq] at hmore
      have hquote : '"' ∈ key := by
        rw [hkey, ← hmore.1]
        exact List.mem_append_right written List.mem_cons_self
      exact absurd hquote (not_mem_of_plain hplain rfl)

theorem not_prefix_of_parted {rest : List Char} (hparted : Parted rest) :
    ¬key ++ ['"'] <+: rest := by
  rintro ⟨behind, heq⟩
  rw [List.append_assoc, List.singleton_append] at heq
  have hquote : '"' ∉ key := not_mem_of_plain hplain rfl
  exact (hparted key behind heq.symm hquote).elim (not_mem_of_plain hplain rfl)
    (not_mem_of_plain hplain rfl)

/-- **The search finds nothing inside of a string**, up to its closing quote: at an escaped quote
there may be the name, but the backslash in front of it tells. -/
theorem findKey_written {before : Char} {written rest : List Char} (hparted : Parted rest)
    (hguarded : GuardedBehind before written) (offset : Nat) :
    findKey (quoted key) (some before) offset 0 (written ++ '"' :: rest) =
      findKey (quoted key) (some '"') (offset + (byteLength written + 1)) 0 rest := by
  induction written generalizing before offset with
  | nil =>
    have hnot : ¬quoted key <+: '"' :: rest := fun h =>
      not_prefix_of_parted hplain hparted (quoted_prefix_cons.1 h).2
    exact findKey_passing hnot (some before) offset
  | cons c written ih =>
    have hoffset : offset + (byteLength (c :: written) + 1) =
        offset + c.utf8Size + (byteLength written + 1) := by
      rw [Text.byteLength_cons, Nat.add_assoc, Nat.add_assoc]
    by_cases hname : quoted key <+: c :: (written ++ '"' :: rest)
    · -- the name starts with an escaped quote and ends with the string
      obtain ⟨rfl, hprefix⟩ := quoted_prefix_cons.1 hname
      have hescaped : before = '\\' := by simpa using hguarded [] written rfl
      have hwritten := eq_of_prefix_quote hplain (by decide) hguarded.tail hprefix
      rw [List.cons_append, ← hwritten, findKey_quoted, if_neg (by simp [hescaped]),
        Text.byteLength_cons]
      rfl
    · rw [hoffset, List.cons_append, findKey_passing hname]
      exact ih hguarded.tail _

theorem findKey_eq {cs : List Char} (h : Lexed cs) {before : Option Char}
    (hbefore : before ≠ some '\\') (offset depth : Nat) : findKey (quoted key) before offset 0 cs =
      ((keysFrom offset depth 0 cs).find? (·.written = key)).map (·.offset) := by
  induction h generalizing before offset depth with
  | nil => rfl
  | @char c cs hquote hbackslash _ _ ih =>
    have hnot : ¬quoted key <+: c :: cs := fun h => hquote (quoted_prefix_cons.1 h).1
    rw [Json.keysFrom_char offset depth hquote, findKey_passing hnot]
    exact ih (by simpa using hbackslash) _ _
  | @string cs name rest hread hparted hlexed ih =>
    obtain ⟨written, rfl, hguarded, -⟩ := Json.readString_eq_ok hread
    have hopen : some '"' ≠ some '\\' := by decide
    have hrest := ih hopen (offset + (1 + byteLength written + 1)) depth
    rw [Json.keysFrom_string offset depth hread, List.find?_append, Option.map_or, ← hrest]
    by_cases hkey : key = written
    · -- the string is written like the name, and it is found if it is a key
      subst hkey
      rw [findKey_quoted, Json.trimStart_of_lexed hlexed]
      by_cases hcolon : ColonNext rest
      · rw [if_pos ⟨hbefore, hcolon⟩, if_pos hcolon]
        simp
      · rw [if_neg fun h => hcolon h.2, if_neg hcolon]
        rfl
    · -- the name starts neither with the string nor in it
      have hbehind := GuardedBehind.of_guarded hguarded '"'
      have hnot : ¬quoted key <+: '"' :: (written ++ '"' :: rest) := fun h =>
        hkey (eq_of_prefix_quote hplain (by decide) hbehind (quoted_prefix_cons.1 h).2)
      have hfind : ((if ColonNext rest then
          [(⟨offset, depth, written, String.ofList name⟩ : KeyPlace)] else []).find?
            (·.written = key)) = none := by
        split
        · simp [Ne.symm hkey]
        · rfl
      rw [findKey_passing hnot, findKey_written hplain hparted hbehind, hfind, Nat.add_assoc,
        Nat.add_assoc 1]
      rfl

end

/-- **A plain name is found where the first key stands that is written like it.** -/
theorem keyOffset?_eq {text : List Char} (h : Lexed text) {key : String} (hkey : IsPlainName key) :
    keyOffset? text key = ((keysOf text).find? (·.written = key.toList)).map (·.offset) :=
  findKey_eq hkey h (by decide) 0 0

/-! ## Reporting at keys -/

/-- A diagnostic is located at a key of the text's own object with this name. -/
def ReportsAtKey (text key : String) (d : Diagnostic) : Prop :=
  ∃ l, d.location = some l ∧
    ∃ k ∈ keysOf text.toList, k.depth = 1 ∧ k.name = key ∧ l.start.toNat = k.offset

theorem eq_of_offset_eq {text : List Char} {k k' : KeyPlace} (hk : k ∈ keysOf text)
    (hk' : k' ∈ keysOf text) (h : k.offset = k'.offset) : k = k' := by
  have hnodup : ((keysOf text).map (·.offset)).Nodup :=
    List.pairwise_map.2 ((Json.pairwise_keysFrom 0 0 0 text).imp Nat.ne_of_lt)
  exact List.inj_on_of_nodup_map hnodup hk hk' h

theorem offset_lt_of_mem_keysOf {text : List Char} {k : KeyPlace} (hk : k ∈ keysOf text) :
    k.offset < byteLength text := by
  obtain ⟨front, name, back, htext, hoffset, -⟩ := Json.standsIn_of_mem_keysFrom hk
  have hpos := Char.utf8Size_pos '"'
  rw [hoffset, htext, Text.byteLength_append, Text.byteLength_cons]
  omega

/-- **A fault is at a key of the object exactly if the first key written like its name is one.** -/
theorem reportsAtKey_keyDiagnostic (file : ProjectPath) {text key : String} (message : String)
    (hlexed : Lexed text.toList) (hsize : byteLength text.toList < UInt32.size)
    (hkey : IsPlainName key) :
    ReportsAtKey text key (keyDiagnostic file text.toList key message) ↔
      ∃ k, (keysOf text.toList).find? (·.written = key.toList) = some k ∧ k.depth = 1 := by
  have hoffset := keyOffset?_eq hlexed hkey
  unfold keyDiagnostic
  cases hfind : (keysOf text.toList).find? (·.written = key.toList) with
  | none =>
    rw [hoffset, hfind]
    exact ⟨fun ⟨_, hl, _⟩ => (by cases hl), fun ⟨_, hk, _⟩ => (by cases hk)⟩
  | some k =>
    have hmem := List.mem_of_find?_eq_some hfind
    have hwritten : k.written = key.toList := by simpa using List.find?_some hfind
    have hstart : k.offset.toUInt32.toNat = k.offset :=
      UInt32.toNat_ofNat_of_lt' ((offset_lt_of_mem_keysOf hmem).trans hsize)
    rw [hoffset, hfind]
    constructor
    · rintro ⟨l, hl, k', hk', hdepth, -, hat⟩
      cases hl
      cases eq_of_offset_eq hmem hk' (hstart.symm.trans hat)
      exact ⟨k, rfl, hdepth⟩
    · rintro ⟨k', hk', hdepth⟩
      cases hk'
      have hbackslash : '\\' ∉ k.written := by
        rw [hwritten]
        exact not_mem_of_plain hkey rfl
      have hname := (Json.standsIn_of_mem_keysFrom hmem).name_eq hbackslash
      rw [hwritten, String.ofList_toList] at hname
      exact ⟨_, rfl, k, hmem, hdepth, hname, hstart⟩

theorem faultsOf_of_error (file : ProjectPath) {text : String} {es : List (String × Json)}
    (hes : Json.IsObject text.toList es) {key message : String} {value : Json}
    (hvalue : Json.lastValue? key es = some value)
    (hmessage : ruleEntries key value = .error message) :
    faultsOf file text key = [(key, keyDiagnostic file text.toList key message)] := by
  have hfaults : faultsOf file text key = (fault? file text.toList (key, value)).toList :=
    filter_faults (readDocument_of_isObject hes) (Json.mem_settle_of_lastValue? hvalue)
  rw [hfaults, fault?, hmessage]
  rfl

/-- **The fault of a rule is reported at the first key written like its name, whose ever it is.**
A text of fewer than 2³² bytes that is an object is read with the last value of each key. Its keys
with one bracket around them are those of its entries, in their order, and each key stands where
its place says. A value with a fault has one diagnostic. If the name of its key is plain, the
diagnostic is located at a key of the object with that name exactly if of all keys of the text
that are written like the name the first is one of the object's. -/
theorem reportsAtKey_iff (file : ProjectPath) (text : String) (es : List (String × Json))
    (hes : Json.IsObject text.toList es) (hsize : byteLength text.toList < UInt32.size) :
    (parse file text).diagnostics = (faults file text).map Prod.snd ∧
    ((keysOf text.toList).filter (·.depth = 1)).map (·.name) = es.map Prod.fst ∧
    (∀ k ∈ keysOf text.toList, k.StandsIn 0 text.toList) ∧
    ∀ key value message, Json.lastValue? key es = some value →
      ruleEntries key value = .error message →
      ∃ d, faultsOf file text key = [(key, d)] ∧ d.message = message ∧
        (IsPlainName key → (ReportsAtKey text key d ↔
          ∃ k, (keysOf text.toList).find? (·.written = key.toList) = some k ∧ k.depth = 1)) := by
  have ⟨cs, rest, hopen, hentries, hend⟩ := hes
  have hlexed := Json.lexed_of_entries hopen hentries hend
  refine ⟨by rw [parse_eq (readDocument_of_isObject hes)],
    Json.keysOf_of_entries hopen hentries hend, fun k hk => Json.standsIn_of_mem_keysFrom hk,
    fun key value message hvalue hmessage => ⟨keyDiagnostic file text.toList key message,
      faultsOf_of_error file hes hvalue hmessage, ?_,
      reportsAtKey_keyDiagnostic file message hlexed hsize⟩⟩
  unfold keyDiagnostic
  split <;> rfl

/-! A name that a reason speaks of before it is a key, and one that is a key in the value of another
first. -/

def mentionText : String :=
  "\x7b\"note\": \x7b\"reason\": \"\\\"equals-nan\\\": \"\x7d, \"equals-nan\": 5\x7d"

def mentionEntries : List (String × Json) :=
  [("note", .object [("reason", .string "\"equals-nan\": ")]), ("equals-nan", .nat 5)]

set_option maxRecDepth 4000 in
theorem isObject_mention : Json.IsObject mentionText.toList mentionEntries :=
  ⟨mentionText.toList.tail, [], by rfl, by rfl, by rfl⟩

theorem reportsAtKey_iff_mention :
    Json.IsObject mentionText.toList mentionEntries ∧
    byteLength mentionText.toList < UInt32.size ∧
    ∃ message d, ruleEntries "equals-nan" (.nat 5) = .error message ∧
      faultsOf .here mentionText "equals-nan" = [("equals-nan", d)] ∧ d.message = message ∧
      ReportsAtKey mentionText "equals-nan" d := by
  have hsize : byteLength mentionText.toList < UInt32.size := by decide
  obtain ⟨-, -, -, hfaults⟩ :=
    reportsAtKey_iff .here mentionText mentionEntries isObject_mention hsize
  obtain ⟨d, hfault, hmessage, hat⟩ := hfaults "equals-nan" (.nat 5) _ (by rfl) (by rfl)
  exact ⟨isObject_mention, hsize, _, d, by rfl, hfault, hmessage,
    (hat (by decide)).2 ⟨_, by rfl, by decide⟩⟩

def nestedText : String := "\x7b\"a\": \x7b\"equals-nan\": 1\x7d, \"equals-nan\": 5\x7d"

def nestedEntries : List (String × Json) :=
  [("a", .object [("equals-nan", .nat 1)]), ("equals-nan", .nat 5)]

set_option maxRecDepth 4000 in
theorem isObject_nested : Json.IsObject nestedText.toList nestedEntries :=
  ⟨nestedText.toList.tail, [], by rfl, by rfl, by rfl⟩

/-- The key of the object is the third, and its fault is reported at the second, in the value of the
first. -/
theorem not_reportsAtKey_nested :
    Json.IsObject nestedText.toList nestedEntries ∧
    (keysOf nestedText.toList).map (fun k => (k.offset, k.depth, k.name)) =
      [(1, 1, "a"), (7, 2, "equals-nan"), (25, 1, "equals-nan")] ∧
    ∃ d, faultsOf .here nestedText "equals-nan" = [("equals-nan", d)] ∧
      d.location.map (·.start) = some 7 ∧ ¬ReportsAtKey nestedText "equals-nan" d := by
  have hoffset : keyOffset? nestedText.toList "equals-nan" = some 7 := by decide
  have hvalue : Json.lastValue? "equals-nan" nestedEntries = some (.nat 5) := by rfl
  have hfault := faultsOf_of_error .here isObject_nested hvalue (by rfl)
  have hkeys : ∀ k ∈ keysOf nestedText.toList, k.depth = 1 → k.offset ≠ 7 := by decide
  refine ⟨isObject_nested, by decide, _, hfault, ?_⟩
  rw [keyDiagnostic, hoffset]
  refine ⟨rfl, ?_⟩
  rintro ⟨l, hl, k, hk, hdepth, -, hstart⟩
  cases hl
  exact hkeys k hk hdepth hstart.symm

end Conformance.ExemptionFile
