/-!
# JSON values

A document that may hold anything is read as a `Json` value, and everything the
library writes is such a value before it is text.  An object keeps its members in
the order they were put; putting a key again replaces its value where it stands.

A number is kept as it is compared: a whole number in the range of 64 bits, or a
double, held as its bits so that values can be told apart.
-/
namespace Conformance

inductive Number where
  /-- A whole number from zero up. -/
  | natural (n : Nat)
  /-- The whole number `-n`. -/
  | negative (n : Nat)
  /-- A double, as its bits. -/
  | double (bits : UInt64)
  deriving DecidableEq, Repr, Inhabited

inductive Json where
  | null
  | bool (b : Bool)
  | number (n : Number)
  | string (s : String)
  | array (items : List Json)
  | object (members : List (String × Json))
  deriving Repr, Inhabited

namespace Json

def nat (n : Nat) : Json := .number (.natural n)

/-- Gives `key` the value `v`: in its place if it is there, at the end if not. -/
def put {α : Type} (key : String) (v : α) : List (String × α) → List (String × α)
  | [] => [(key, v)]
  | (k, w) :: rest => if k = key then (key, v) :: rest else (k, w) :: put key v rest

/-- The members of an object whose entries came in this order: of a repeated key the last value
counts. -/
def settle {α : Type} (entries : List (String × α)) : List (String × α) :=
  entries.foldl (fun members e => put e.1 e.2 members) []

def lookup {α : Type} (key : String) : List (String × α) → Option α
  | [] => none
  | (k, v) :: rest => if k = key then some v else lookup key rest

theorem lookup_put_self {α : Type} (key : String) (v : α) (ms : List (String × α)) :
    lookup key (put key v ms) = some v := by
  induction ms with
  | nil => simp [put, lookup]
  | cons m ms ih =>
    obtain ⟨k, w⟩ := m
    by_cases h : k = key <;> simp [put, lookup, h, ih]

theorem lookup_put_of_ne {α : Type} {key other : String} (h : other ≠ key) (v : α)
    (ms : List (String × α)) : lookup other (put key v ms) = lookup other ms := by
  induction ms with
  | nil => simp [put, lookup, h.symm]
  | cons m ms ih =>
    obtain ⟨k, w⟩ := m
    by_cases hk : k = key
    · subst hk
      simp [put, lookup, h.symm]
    · by_cases ho : k = other
      · subst ho
        simp [put, lookup, hk]
      · simp [put, lookup, hk, ho, ih]

end Json

end Conformance
