import Conformance.Json.Token
import Mathlib.Data.List.TakeWhile
/-!
# What a token takes off the text

Of a text that was read, a string takes what is written between its quotes and its closing quote
(`readString_eq_ok`): a quote in between has a backslash in front of it, and without a backslash the
string is what is written.  Numbers and words take characters that neither begin nor end anything
(`readNumber_takes`, `word_eq_ok`).
-/
namespace Conformance.Json

/-! ## Strings -/

/-- Every quote of a text has a backslash in front of it. -/
def Guarded (cs : List Char) : Prop :=
  ∀ front back, cs = front ++ '"' :: back → front.getLast? = some '\\'

theorem Guarded.nil : Guarded [] := by
  intro front back h
  simp at h

theorem Guarded.append {front back : List Char} (hfront : Guarded front) (hback : Guarded back) :
    Guarded (front ++ back) := by
  intro before after h
  rcases List.append_eq_append_iff.1 h with ⟨more, rfl, hmore⟩ | ⟨more, rfl, hmore⟩
  · have hlast := hback more after hmore
    rw [List.getLast?_append, hlast]
    rfl
  · cases more with
    | nil =>
      have hlast := hback [] after hmore.symm
      cases hlast
    | cons c more =>
      rw [List.cons_append, List.cons.injEq] at hmore
      exact hfront before more (by rw [hmore.1])

theorem Guarded.of_not_mem {cs : List Char} (h : '"' ∉ cs) : Guarded cs := by
  rintro front back rfl
  exact absurd (List.mem_append_right front List.mem_cons_self) h

theorem Guarded.escape (c : Char) {cs : List Char} (h : '"' ∉ cs) : Guarded ('\\' :: c :: cs) := by
  intro front back heq
  match front, heq with
  | [], heq =>
    rw [List.nil_append, List.cons.injEq] at heq
    exact absurd heq.1 (by decide)
  | [d], heq =>
    rw [List.cons_append, List.cons.injEq] at heq
    rw [← heq.1]
    rfl
  | d :: e :: front, heq =>
    rw [List.cons_append, List.cons_append, List.cons.injEq, List.cons.injEq] at heq
    rw [heq.2.2] at h
    exact absurd (List.mem_append_right front List.mem_cons_self) h

theorem exists_of_bind {α β : Type} {read : Except Stop α} {next : α → Except Stop β} {b : β}
    (h : (read >>= next) = .ok b) : ∃ a, read = .ok a ∧ next a = .ok b := by
  cases read with
  | error s => cases h
  | ok a => exact ⟨a, rfl, h⟩

theorem hexEscape_eq_ok {cs rest : List Char} {n : Nat} (h : hexEscape cs = .ok (n, rest)) :
    ∃ digits, cs = digits ++ rest ∧ '"' ∉ digits := by
  unfold hexEscape at h
  split at h
  · rename_i a b c d more
    split at h
    · rename_i ha hb hc hd
      cases h
      refine ⟨[a, b, c, d], rfl, fun hmem => ?_⟩
      have hquote : Text.hexValue? '"' = none := by decide
      simp only [List.mem_cons, List.not_mem_nil, or_false] at hmem
      rcases hmem with rfl | rfl | rfl | rfl <;> simp_all
    · cases h
  · split at h <;> cases h

theorem lowHalf_eq_ok {high : Nat} {cs rest : List Char} {c : Char}
    (h : lowHalf high cs = .ok (c, rest)) : ∃ half, cs = half ++ rest ∧ '"' ∉ half := by
  unfold lowHalf at h
  split at h
  · obtain ⟨⟨low, behind⟩, hhex, hlow⟩ := exists_of_bind h
    obtain ⟨digits, rfl, hdigits⟩ := hexEscape_eq_ok hhex
    dsimp only at hlow
    split at hlow
    · obtain ⟨-, rfl⟩ := Prod.mk.inj (Except.ok.inj hlow)
      exact ⟨'\\' :: 'u' :: digits, rfl, by simp [hdigits]⟩
    · cases hlow
  all_goals cases h

/-- An escape takes one character behind its backslash, and others of which none is a quote. -/
theorem escape_eq_ok {cs rest : List Char} {c : Char} (h : escape cs = .ok (c, rest)) :
    ∃ d more, cs = d :: more ++ rest ∧ '"' ∉ more := by
  unfold escape at h
  split at h
  · cases h
  · obtain ⟨⟨n, behind⟩, hhex, hcode⟩ := exists_of_bind h
    obtain ⟨digits, rfl, hdigits⟩ := hexEscape_eq_ok hhex
    dsimp only at hcode
    split at hcode
    · cases hcode
    · split at hcode
      · obtain ⟨half, rfl, hhalf⟩ := lowHalf_eq_ok hcode
        exact ⟨'u', digits ++ half, by simp, by simp [hdigits, hhalf]⟩
      · cases hcode
        exact ⟨'u', digits, rfl, hdigits⟩
  · rename_i d behind _
    split at h
    · cases h
      exact ⟨d, [], rfl, List.not_mem_nil⟩
    · cases h

theorem stringSteps_eq_ok {n : Nat} {cs name rest : List Char}
    (h : stringSteps n cs = .ok (name, rest)) : ∃ written, cs = written ++ '"' :: rest ∧
      Guarded written ∧ ('\\' ∉ written → name = written) := by
  induction n generalizing cs name rest with
  | zero => cases h
  | succ n ih =>
    cases cs with
    | nil => cases h
    | cons c cs =>
      rw [stringSteps] at h
      by_cases hquote : c = '"'
      · rw [if_pos hquote] at h
        cases h
        exact ⟨[], by rw [hquote]; rfl, .nil, fun _ => rfl⟩
      · rw [if_neg hquote] at h
        by_cases hescape : c = '\\'
        · -- whatever the escape stands for, its backslash is in front of what may be a quote
          rw [if_pos hescape] at h
          obtain ⟨⟨d, behind⟩, hc, hbehind⟩ := exists_of_bind h
          obtain ⟨⟨ds, rest'⟩, hsteps, hall⟩ := exists_of_bind hbehind
          cases hall
          obtain ⟨e, more, rfl, hmore⟩ := escape_eq_ok hc
          obtain ⟨written, rfl, hguarded, -⟩ := ih hsteps
          refine ⟨'\\' :: e :: more ++ written, by simp [hescape],
            (Guarded.escape e hmore).append hguarded, fun hnone => ?_⟩
          exact absurd List.mem_cons_self hnone
        · rw [if_neg hescape] at h
          split at h
          · cases h
          · obtain ⟨⟨ds, rest'⟩, hsteps, hall⟩ := exists_of_bind h
            cases hall
            obtain ⟨written, rfl, hguarded, hplain⟩ := ih hsteps
            refine ⟨c :: written, rfl, ?_, fun hnone => ?_⟩
            · have hc : '"' ∉ [c] := by simpa using Ne.symm hquote
              exact (Guarded.of_not_mem hc).append hguarded
            · rw [hplain fun hmem => hnone (List.mem_cons_of_mem c hmem)]

theorem readString_eq_ok {cs name rest : List Char} (h : readString cs = .ok (name, rest)) :
    ∃ written, cs = written ++ '"' :: rest ∧ Guarded written ∧
      ('\\' ∉ written → name = written) := stringSteps_eq_ok h

/-! ## Words and numbers -/

theorem word_eq_ok {es cs rest : List Char} (h : word es cs = .ok rest) : cs = es ++ rest := by
  induction es generalizing cs with
  | nil =>
    cases h
    rfl
  | cons e es ih =>
    cases cs with
    | nil => cases h
    | cons c cs =>
      rw [word] at h
      split at h
      · rename_i hc
        rw [hc, ih h]
        rfl
      · cases h

def isNumeral (c : Char) : Bool :=
  isDigit c || c == '-' || c == '+' || c == '.' || c == 'e' || c == 'E'

/-- What is behind some characters of a number. -/
def Takes (cs rest : List Char) : Prop := ∃ seg, cs = seg ++ rest ∧ ∀ c ∈ seg, isNumeral c = true

theorem Takes.refl (cs : List Char) : Takes cs cs := ⟨[], rfl, by simp⟩

theorem Takes.cons {c : Char} {cs rest : List Char} (hc : isNumeral c = true) (h : Takes cs rest) :
    Takes (c :: cs) rest := by
  obtain ⟨seg, rfl, hseg⟩ := h
  exact ⟨c :: seg, rfl, List.forall_mem_cons.2 ⟨hc, hseg⟩⟩

theorem Takes.digits {cs rest : List Char} (h : Takes (cs.dropWhile isDigit) rest) :
    Takes cs rest := by
  obtain ⟨seg, hdrop, hseg⟩ := h
  refine ⟨cs.takeWhile isDigit ++ seg, ?_, fun c hc => ?_⟩
  · rw [List.append_assoc, ← hdrop, List.takeWhile_append_dropWhile]
  · rcases List.mem_append.1 hc with hc | hc
    · simp [isNumeral, List.mem_takeWhile_imp hc]
    · exact hseg c hc

theorem isNumeral_of_isDigit {c : Char} (h : isDigit c = true) : isNumeral c = true := by
  simp [isNumeral, h]

theorem scaled_takes {negative : Bool} {n : Nat} {e : Int} {cs rest : List Char} {m : Number}
    (h : scaled negative n e cs = .ok (m, rest)) : Takes cs rest := by
  unfold scaled at h
  split at h
  · cases h
    exact .refl cs
  · cases h

theorem exponentDigits_takes {negative : Bool} {n : Nat} {start : Int} {upwards : Bool}
    {cs rest : List Char} {e : Nat} {m : Number}
    (h : exponentDigits negative n start upwards cs e = .ok (m, rest)) : Takes cs rest := by
  induction cs generalizing e with
  | nil => exact scaled_takes h
  | cons c cs ih =>
    rw [exponentDigits] at h
    dsimp only at h
    split at h
    · rename_i hc
      refine .cons (isNumeral_of_isDigit hc) ?_
      split at h
      · exact ih h
      · split at h
        · cases h
        · cases h
          exact .digits (.refl _)
    · exact scaled_takes h

theorem exponent_takes {negative : Bool} {n : Nat} {start : Int} {cs rest : List Char} {m : Number}
    (h : exponent negative n start cs = .ok (m, rest)) : Takes cs rest := by
  unfold exponent at h
  split at h
  rename_i upwards cs' hsign
  have htakes : Takes cs' rest := by
    split at h
    · cases h
    · split at h
      · exact exponentDigits_takes h
      · cases h
  split at hsign <;> cases hsign
  · exact .cons rfl htakes
  · exact .cons rfl htakes
  · exact htakes

theorem places_takes {negative : Bool} {n : Nat} {start : Int} {cs rest : List Char} {m : Number}
    (h : places negative n start cs = .ok (m, rest)) : Takes cs rest := by
  unfold places at h
  dsimp only at h
  refine .digits ?_
  split at h
  · split at h <;> cases h
  · split at h
    · rename_i c more hdrop
      split at h
      · rename_i hc
        rw [hdrop]
        refine .cons ?_ (exponent_takes h)
        rcases hc with rfl | rfl <;> rfl
      · exact scaled_takes h
    · exact scaled_takes h

theorem afterWhole_takes {negative : Bool} {n left : Nat} {cs rest : List Char} {m : Number}
    (h : afterWhole negative n left cs = .ok (m, rest)) : Takes cs rest := by
  unfold afterWhole at h
  split at h
  · exact .cons rfl (places_takes h)
  · exact .cons rfl (exponent_takes h)
  · exact .cons rfl (exponent_takes h)
  · split at h
    · exact scaled_takes h
    · split at h
      · cases h
        exact .refl _
      · split at h <;> cases h <;> exact .refl _

theorem readNumber_takes {negative : Bool} {cs rest : List Char} {m : Number}
    (h : readNumber negative cs = .ok (m, rest)) : Takes cs rest := by
  unfold readNumber at h
  split at h
  · cases h
  · refine .cons rfl ?_
    split at h
    · split at h
      · cases h
      · exact afterWhole_takes h
    · exact afterWhole_takes h
  · split at h
    · exact .digits (afterWhole_takes h)
    · cases h

end Conformance.Json
