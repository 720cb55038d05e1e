import Conformance.Path.Basic
/-!
# The disk

Everything a run reads and writes is on a `Disk`, a value: the entries of a tree
of directories, each at its place, and the directory that relative paths start
from.  The root is a directory and has no entry.  There are no links, so every
entry has one place.

An operation that changes the disk returns the new one, also when it fails,
because a failure may come after a part of the work was done.

The disk is seen through `find?`.  What `put` and `erase` do to it is said by
the lemmas beside them; nothing else needs to know how entries are kept.
-/
namespace Conformance

/-- A place on the disk: the names on the way to it from the root. -/
abbrev Place := List (List Char)

inductive Entry where
  | dir
  | file (bytes : ByteArray)
  deriving Inhabited

/-- Two files are the same when they hold the same bytes. -/
instance : DecidableEq Entry
  | .dir, .dir => .isTrue rfl
  | .dir, .file _ => .isFalse (fun h => by cases h)
  | .file _, .dir => .isFalse (fun h => by cases h)
  | .file a, .file b =>
    if h : a.data = b.data then .isTrue (by rw [ByteArray.ext h])
    else .isFalse (fun hab => h (by cases hab; rfl))

inductive DiskError where
  | notFound
  | alreadyExists
  | notADirectory
  | isADirectory
  | nameTooLong
  /-- A path holds the character zero. -/
  | zeroInPath
  /-- A file holds bytes that are no text. -/
  | notText
  deriving DecidableEq, Repr

def DiskError.message : DiskError → String
  | .notFound => "No such file or directory (os error 2)"
  | .alreadyExists => "File exists (os error 17)"
  | .notADirectory => "Not a directory (os error 20)"
  | .isADirectory => "Is a directory (os error 21)"
  | .nameTooLong => "File name too long (os error 36)"
  | .zeroInPath => "file name contained an unexpected NUL byte"
  | .notText => "stream did not contain valid UTF-8"

/-- A tree of directories and files. -/
structure Disk where
  /-- The entries below the root, no place twice. -/
  entries : List (Place × Entry)
  /-- The directory that relative paths start from. -/
  here : Place
  deriving Inhabited

namespace Disk

def empty : Disk := ⟨[], []⟩

def lookup (place : Place) : List (Place × Entry) → Option Entry
  | [] => none
  | (p, e) :: rest => if p = place then some e else lookup place rest

def find? (d : Disk) (place : Place) : Option Entry :=
  if place = [] then some .dir else lookup place d.entries

/-- Gives a place an entry: where it stands if it has one, at the end if not. -/
def insert (place : Place) (e : Entry) : List (Place × Entry) → List (Place × Entry)
  | [] => [(place, e)]
  | (p, f) :: rest => if p = place then (place, e) :: rest else (p, f) :: insert place e rest

def put (d : Disk) (place : Place) (e : Entry) : Disk :=
  { d with entries := insert place e d.entries }

def erase (d : Disk) (place : Place) : Disk :=
  { d with entries := d.entries.filter fun x => x.1 ≠ place }

/-! ## What a disk is seen to hold -/

@[simp] theorem find?_nil (d : Disk) : d.find? [] = some .dir := by simp [find?]

theorem lookup_insert_self (place : Place) (e : Entry) (es : List (Place × Entry)) :
    lookup place (insert place e es) = some e := by
  induction es with
  | nil => simp [insert, lookup]
  | cons x es ih =>
    obtain ⟨p, f⟩ := x
    by_cases h : p = place <;> simp [insert, lookup, h, ih]

theorem lookup_insert_of_ne {place other : Place} (h : place ≠ other) (e : Entry)
    (es : List (Place × Entry)) : lookup other (insert place e es) = lookup other es := by
  induction es with
  | nil => simp [insert, lookup, h]
  | cons x es ih =>
    obtain ⟨p, f⟩ := x
    by_cases hp : p = place
    · subst hp
      simp [insert, lookup, h]
    · simp only [insert, hp, if_false, lookup, ih]

theorem find?_put_self (d : Disk) {place : Place} (h : place ≠ []) (e : Entry) :
    (d.put place e).find? place = some e := by
  simp [find?, put, h, lookup_insert_self]

theorem find?_put_of_ne (d : Disk) {place other : Place} (h : place ≠ other) (e : Entry) :
    (d.put place e).find? other = d.find? other := by
  simp [find?, put, lookup_insert_of_ne h]

theorem lookup_filter_self (place : Place) (es : List (Place × Entry)) :
    lookup place (es.filter fun x => x.1 ≠ place) = none := by
  induction es with
  | nil => rfl
  | cons x es ih =>
    obtain ⟨p, f⟩ := x
    by_cases h : p = place
    · simpa [h] using ih
    · simpa [List.filter_cons, h, lookup] using ih

theorem lookup_filter_of_ne {place other : Place} (h : place ≠ other)
    (es : List (Place × Entry)) :
    lookup other (es.filter fun x => x.1 ≠ place) = lookup other es := by
  induction es with
  | nil => rfl
  | cons x es ih =>
    obtain ⟨p, f⟩ := x
    by_cases hp : p = place
    · subst hp
      simpa [lookup, h] using ih
    · rw [List.filter_cons_of_pos (by simpa using hp)]
      simp only [lookup, ih]

theorem find?_erase_self (d : Disk) {place : Place} (h : place ≠ []) :
    (d.erase place).find? place = none := by
  simp only [find?, erase, h, if_false]
  exact lookup_filter_self place d.entries

theorem find?_erase_of_ne (d : Disk) {place other : Place} (h : place ≠ other) :
    (d.erase place).find? other = d.find? other := by
  simp only [find?, erase, lookup_filter_of_ne h]

@[simp] theorem here_put (d : Disk) (place : Place) (e : Entry) :
    (d.put place e).here = d.here := rfl

@[simp] theorem here_erase (d : Disk) (place : Place) : (d.erase place).here = d.here := rfl

/-! ## What is below a place -/

/-- The names behind a place on the way to another, when the one is on it. -/
def below? : Place → Place → Option Place
  | [], q => some q
  | _ :: _, [] => none
  | n :: p, m :: q => if n = m then below? p q else none

/-- The entries below a place, each under the names that lead to it from there. -/
def below (d : Disk) (place : Place) : List (Place × Entry) :=
  d.entries.filterMap fun x => match below? place x.1 with
    | none => none
    | some [] => none
    | some names => some (names, x.2)

def prune (d : Disk) (place : Place) : Disk :=
  { d with entries := d.entries.filter fun x => (below? place x.1).isNone }

end Disk

end Conformance
