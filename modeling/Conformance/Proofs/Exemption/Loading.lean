import Conformance.Exemption.File
import Conformance.Proofs.Json.Fitting
import Conformance.Proofs.Gathering
/-!
# What an exemption file comes to

Each member of an exemption file is settled by itself: it grants entries to its rule (`granted`) or
has a fault (`fault?`), never both.  The members are taken in the order of their names, so a file
comes to what they grant and to their faults in that order (`parse_eq`).  No name is that of two
members, so what a rule gets is what its own value grants, and a diagnostic there is for its own
fault (`entriesFor_parse`, `filter_faults`).
-/
namespace Conformance

/-! ## Keys -/

namespace Json

variable {α : Type}

theorem mem_keys_put {key : String} {v : α} : ∀ {ms : List (String × α)} {k : String},
    k ∈ (put key v ms).map Prod.fst → k = key ∨ k ∈ ms.map Prod.fst
  | [], k, h => by simpa [put] using h
  | (k', w) :: ms, k, h => by
    rw [put] at h
    split at h
    · rename_i hsame
      rw [hsame, List.map_cons]
      exact List.mem_cons.1 h |>.imp id (List.mem_cons_of_mem _)
    · rw [List.map_cons] at h ⊢
      rcases List.mem_cons.1 h with h | h
      · exact .inr (List.mem_cons.2 (.inl h))
      · exact (mem_keys_put h).imp id (List.mem_cons_of_mem _)

theorem nodup_keys_put (key : String) (v : α) : ∀ {ms : List (String × α)},
    (ms.map Prod.fst).Nodup → ((put key v ms).map Prod.fst).Nodup
  | [], _ => by simp [put]
  | (k, w) :: ms, h => by
    rw [List.map_cons, List.nodup_cons] at h
    rw [put]
    split
    · rename_i hsame
      subst hsame
      exact List.nodup_cons.2 h
    · rename_i hne
      refine List.nodup_cons.2 ⟨fun hk => ?_, nodup_keys_put key v h.2⟩
      exact (mem_keys_put hk).elim hne h.1

theorem nodup_keys_settle (es : List (String × α)) : ((settle es).map Prod.fst).Nodup := by
  have hfold : ∀ (es ms : List (String × α)), (ms.map Prod.fst).Nodup →
      ((es.foldl (fun members e => put e.1 e.2 members) ms).map Prod.fst).Nodup := by
    intro es
    induction es with
    | nil => exact fun _ h => h
    | cons e es ih => exact fun ms h => ih _ (nodup_keys_put e.1 e.2 h)
  exact hfold es [] List.nodup_nil

theorem nodup_keys_of_readMembers {text : List Char} {members : List (String × Json)}
    (h : readDocument readMembers text = .ok members) : (members.map Prod.fst).Nodup := by
  obtain ⟨rest, hread⟩ := readDocument_ok h
  unfold readMembers at hread
  split at hread
  · cases hread
  · split at hread
    · cases hread
      exact nodup_keys_settle _
    · cases hread
  · cases hread

end Json

namespace ExemptionFile

/-! ## Members -/

/-- The entries that a member grants, with its rule. -/
def granted (member : String × Json) : List (String × ExemptionEntry) :=
  match ruleEntries member.1 member.2 with
  | .ok entries => entries.map (member.1, ·)
  | .error _ => []

def fault? (file : ProjectPath) (text : List Char) (member : String × Json) :
    Option (String × Diagnostic) :=
  match ruleEntries member.1 member.2 with
  | .ok _ => none
  | .error message => some (member.1, keyDiagnostic file text member.1 message)

theorem tag_of_mem_granted {member : String × Json} {x : String × ExemptionEntry}
    (hx : x ∈ granted member) : x.1 = member.1 := by
  unfold granted at hx
  split at hx
  · obtain ⟨e, -, rfl⟩ := List.mem_map.1 hx
    rfl
  · cases hx

theorem tag_of_mem_fault? {file : ProjectPath} {text : List Char} {member : String × Json}
    {x : String × Diagnostic} (hx : x ∈ (fault? file text member).toList) : x.1 = member.1 := by
  rw [Option.mem_toList, fault?] at hx
  split at hx
  · cases hx
  · cases hx
    rfl

def byName (members : List (String × Json)) : List (String × Json) :=
  members.mergeSort fun a b => Text.le a.1.toList b.1.toList

def faults (file : ProjectPath) (text : String) : List (String × Diagnostic) :=
  match Json.readDocument Json.readMembers text.toList with
  | .error _ => []
  | .ok members => (byName members).flatMap fun m => (fault? file text.toList m).toList

theorem foldl_insert (rule : String) : ∀ (entries : List ExemptionEntry) (l : ExemptionList),
    entries.foldl (fun l e => l.insert rule e) l = ⟨l.entries ++ entries.map (rule, ·)⟩
  | [], l => by rw [List.foldl_nil, List.map_nil, List.append_nil]
  | e :: entries, l => by
    rw [List.foldl_cons, foldl_insert rule entries, ExemptionList.insert, List.map_cons,
      List.append_assoc, List.singleton_append]

theorem addRule_eq (file : ProjectPath) (text : List Char) (p : ParsedExemptions)
    (m : String × Json) : addRule file text p m =
      ⟨⟨p.list.entries ++ granted m⟩,
        p.diagnostics ++ ((fault? file text m).toList).map Prod.snd⟩ := by
  unfold addRule granted fault?
  cases ruleEntries m.1 m.2 with
  | ok entries => simp [foldl_insert]
  | error message => simp

theorem foldl_addRule (file : ProjectPath) (text : List Char) :
    ∀ (ms : List (String × Json)) (p : ParsedExemptions), ms.foldl (addRule file text) p =
      ⟨⟨p.list.entries ++ ms.flatMap granted⟩,
        p.diagnostics ++ (ms.flatMap fun m => (fault? file text m).toList).map Prod.snd⟩
  | [], p => by simp
  | m :: ms, p => by
    rw [List.foldl_cons, foldl_addRule file text ms, addRule_eq]
    simp [List.append_assoc]

/-! ## Files -/

section

variable {file : ProjectPath} {text : String} {members : List (String × Json)}
  (h : Json.readDocument Json.readMembers text.toList = .ok members)

include h

/-- **A file comes to what its members grant and to their faults**, in the order of their names. -/
theorem parse_eq : parse file text =
    ⟨⟨(byName members).flatMap granted⟩, (faults file text).map Prod.snd⟩ := by
  simp only [parse, faults, h]
  rw [← byName, foldl_addRule]
  rfl

theorem nodup_keys_byName : ((byName members).map Prod.fst).Nodup :=
  ((List.mergeSort_perm members _).map Prod.fst).nodup_iff.2 (Json.nodup_keys_of_readMembers h)

variable {m : String × Json} (hm : m ∈ members)

include hm

/-- **A rule gets what its own value grants.** -/
theorem entriesFor_parse : (parse file text).list.entriesFor m.1 = (granted m).map Prod.snd := by
  have hown := filter_flatMap_tag Prod.fst (fun _ _ => tag_of_mem_granted) (nodup_keys_byName h)
    (List.mem_mergeSort.2 hm)
  rw [parse_eq h, ExemptionList.entriesFor]
  exact congrArg (List.map Prod.snd) hown

theorem filter_faults : (faults file text).filter (fun x => decide (x.1 = m.1)) =
    (fault? file text.toList m).toList := by
  simp only [faults, h]
  exact filter_flatMap_tag Prod.fst (fun _ _ => tag_of_mem_fault?) (nodup_keys_byName h)
    (List.mem_mergeSort.2 hm)

end

end ExemptionFile
end Conformance
