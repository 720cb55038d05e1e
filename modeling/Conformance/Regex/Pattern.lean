import Conformance.Regex.Property
import Conformance.Regex.Reader
import Conformance.Text.CaseFold
/-!
# Patterns

An expression with its flags applied: sets of characters, conditions on places,
and the ways to put them together.  A flag holds from where it stands to the end
of its group, in later branches too.

Patterns are put together by functions that keep them small.  Texts in a row are
one text, branches of single characters are one set, what branches begin with in
common is taken out of them, and a repetition of what takes nothing is at most one
of it.

Without Unicode a class is one of bytes.  An expression that could match bytes
which are no text is refused, and so is one that asks a class of bytes for a
character outside ASCII.
-/
namespace Conformance.Regex

open Text (CharSet)

inductive Condition where
  | startText
  | endText
  | startLine
  | endLine
  /-- Lines that may end with a carriage return too. -/
  | startLineCrlf
  | endLineCrlf
  /-- Conditions on the words on both sides, in all scripts or in ASCII alone. -/
  | boundary (unicode : Bool)
  | notBoundary (unicode : Bool)
  | wordStart (unicode : Bool)
  | wordEnd (unicode : Bool)
  | wordStartHalf (unicode : Bool)
  | wordEndHalf (unicode : Bool)
  deriving DecidableEq, Repr

inductive Pattern where
  | empty
  | text (cs : List Char)
  | one (set : CharSet)
  | place (c : Condition)
  | seq (ps : List Pattern)
  | alt (ps : List Pattern)
  | rep (p : Pattern) (least : Nat) (most : Option Nat)
  | capture (p : Pattern)
  deriving Repr, Inhabited

namespace Pattern

/-! ## What a pattern takes -/

/-- What can be said of a pattern without a text. -/
structure Traits where
  /-- Does every match take a character? Nothing, if there may be no match. -/
  takes : Option Bool
  /-- Does no match take a character? -/
  isVoid : Bool
  /-- Does every match begin at the start of the text? -/
  starts : Bool
  /-- Does every match end at the end of the text? -/
  ends : Bool
  deriving DecidableEq, Repr

namespace Traits

def empty : Traits := ⟨some false, true, false, false⟩

def some : Traits := ⟨Option.some true, false, false, false⟩

def seq (a b : Traits) : Traits where
  takes := match a.takes, b.takes with
    | Option.some x, Option.some y => Option.some (x || y)
    | _, _ => none
  isVoid := a.isVoid && b.isVoid
  starts := a.starts || (a.isVoid && b.starts)
  ends := b.ends || (b.isVoid && a.ends)

def alt (a b : Traits) : Traits where
  takes := match a.takes, b.takes with
    | Option.some x, Option.some y => Option.some (x && y)
    | _, _ => none
  isVoid := a.isVoid && b.isVoid
  starts := a.starts && b.starts
  ends := a.ends && b.ends

end Traits

mutual

def traits : Pattern → Traits
  | .empty => .empty
  | .text _ => .some
  | .one s => if s.isEmpty then { Traits.some with takes := none } else .some
  | .place c => { Traits.empty with starts := c = .startText, ends := c = .endText }
  | .seq ps => seqTraits ps
  | .alt ps => altTraits ps
  | .rep p least _ =>
    let t := p.traits
    let some := least ≠ 0
    ⟨t.takes.map (· && some), t.isVoid, t.starts && some, t.ends && some⟩
  | .capture p => p.traits

def seqTraits : List Pattern → Traits
  | [] => .empty
  | p :: ps => .seq p.traits (seqTraits ps)

def altTraits : List Pattern → Traits
  | [] => .some
  | [p] => p.traits
  | p :: ps => .alt p.traits (altTraits ps)

end

/-! ## Sameness -/

mutual

def same : Pattern → Pattern → Bool
  | .empty, .empty => true
  | .text cs, .text ds => cs == ds
  | .one s, .one t => s == t
  | .place c, .place d => c == d
  | .seq ps, .seq qs => sameAll ps qs
  | .alt ps, .alt qs => sameAll ps qs
  | .rep p l m, .rep q l' m' => same p q && l == l' && m == m'
  | .capture _, .capture _ => false
  | _, _ => false

def sameAll : List Pattern → List Pattern → Bool
  | [], [] => true
  | p :: ps, q :: qs => same p q && sameAll ps qs
  | _, _ => false

end

/-! ## Putting patterns together -/

def ofSet (s : CharSet) : Pattern :=
  match s.only? with
  | some c => .text [c]
  | none => .one s

def parts : Pattern → List Pattern
  | .empty => []
  | .seq ps => ps
  | p => [p]

/-- Puts texts in a row together, with what has been read of the text at hand, the last character
first. -/
def joinTexts : List Char → List Pattern → List Pattern
  | [], [] => []
  | cs, [] => [.text cs.reverse]
  | cs, .text ds :: ps => joinTexts (ds.reverse ++ cs) ps
  | [], p :: ps => p :: joinTexts [] ps
  | cs, p :: ps => .text cs.reverse :: p :: joinTexts [] ps

def inRow (ps : List Pattern) : Pattern :=
  match joinTexts [] (ps.flatMap parts) with
  | [] => .empty
  | [p] => p
  | ps => .seq ps

def branches : Pattern → List Pattern
  | .alt ps => ps
  | p => [p]

/-- The set of a pattern that takes one character out of a set. -/
def set? : Pattern → Option CharSet
  | .text [c] => some (.single c)
  | .one s => some s
  | _ => none

/-- How many parts two rows begin with in common. -/
def commonLength : List Pattern → List Pattern → Nat
  | p :: ps, q :: qs => if same p q then commonLength ps qs + 1 else 0
  | _, _ => 0

/-- How many parts all branches begin with in common, if all are rows. -/
def sharedLength (first : List Pattern) : List Pattern → Nat
  | [] => first.length
  | .seq qs :: ps => min (commonLength first qs) (sharedLength first ps)
  | _ :: _ => 0

/-- One of some branches, in at most so many rounds of taking out what they begin with in common. -/
def oneOfRounds : Nat → List Pattern → Pattern
  | rounds, ps =>
    match ps.flatMap branches with
    | [] => .one .none
    | [p] => p
    | p :: ps => match (p :: ps).mapM set? with
      | some sets => ofSet (.unions sets)
      | none => match rounds, p with
        | n + 1, .seq first =>
          let k := sharedLength first ps
          if k = 0 then .alt (p :: ps)
          else
            let rest := oneOfRounds n ((p :: ps).map fun q => inRow (q.parts.drop k))
            inRow (first.take k ++ [rest])
        | _, _ => .alt (p :: ps)

def oneOf (ps : List Pattern) : Pattern :=
  oneOfRounds ((ps.headD .empty).parts.length) ps

def times (p : Pattern) (least : Nat) (most : Option Nat) : Pattern :=
  let isVoid := p.traits.isVoid
  let least := if isVoid then min least 1 else least
  let most := if isVoid then some (min (most.getD 1) 1) else most
  if most = some 0 then .empty
  else if least = 1 ∧ most = some 1 then p
  else .rep p least most

end Pattern

/-! ## Flags -/

structure Flags where
  ignoreCase : Bool := false
  multiLine : Bool := false
  dotAll : Bool := false
  unicode : Bool := true
  crlf : Bool := false

namespace Flags

def apply (f : Flags) (change : Flag × Bool) : Flags :=
  match change.1 with
  | .ignoreCase => { f with ignoreCase := change.2 }
  | .multiLine => { f with multiLine := change.2 }
  | .dotAll => { f with dotAll := change.2 }
  | .unicode => { f with unicode := change.2 }
  | .crlf => { f with crlf := change.2 }
  | .swapGreed => f
  | .loose => f

def applyAll (f : Flags) (changes : FlagChanges) : Flags := changes.foldl apply f

def foldCase (f : Flags) (a : CharSet) : CharSet :=
  if !f.ignoreCase then a else if f.unicode then a.anyCase else a.anyAsciiCase

/-- A set under the flag for case, or everything else. -/
def settle (f : Flags) (negated : Bool) (a : CharSet) : CharSet := (f.foldCase a).negateIf negated

/-- The character of a literal. Without Unicode a literal that may mean a byte does, and a byte
outside ASCII is no text. -/
def char (f : Flags) (l : Literal) : Except Error Char :=
  if !f.unicode && l.asByte && 0x80 ≤ l.char.toNat then refuse .notText l.span else .ok l.char

def literal (f : Flags) (l : Literal) : Except Error Pattern :=
  (f.char l).map fun c => .ofSet (f.foldCase (.single c))

def classChar (f : Flags) (l : Literal) : Except Error Char :=
  match f.char l with
  | .error e => .error e
  | .ok c => if !f.unicode && 0x80 ≤ c.toNat then refuse .unicodeNotAllowed l.span else .ok c

/-- A negated class of bytes is no text. -/
def refuseNegated (f : Flags) (span : Span) (negated : Bool) (a : CharSet) :
    Except Error CharSet :=
  if !f.unicode && negated then refuse .notText span else .ok a

def short (f : Flags) (span : Span) (kind : ShortClass) (negated : Bool) : Except Error CharSet :=
  f.refuseNegated span negated ((kind.set f.unicode).negateIf negated)

def property (f : Flags) (span : Span) (p : Property) (negated : Bool) : Except Error CharSet :=
  if !f.unicode then refuse .unicodeNotAllowed span
  else match p.set with
    | .error fault => refuse fault span
    | .ok a => .ok (f.settle (negated != p.isNegated) a)

def dot (f : Flags) (span : Span) : Except Error CharSet :=
  if !f.unicode then refuse .notText span
  else if f.dotAll then .ok .all
  else if f.crlf then .ok (CharSet.ofTable "A D").compl
  else .ok (CharSet.single '\n').compl

mutual

def item (f : Flags) : ClassItem → Except Error CharSet
  | .literal l => (f.classChar l).map .single
  | .range lo hi => match f.classChar lo with
    | .error e => .error e
    | .ok lo => (f.classChar hi).map (.range lo)
  | .ascii span kind negated => f.refuseNegated span negated (f.settle negated kind.set)
  | .short span kind negated => f.short span kind negated
  | .property span p negated => f.property span p negated
  | .bracketed span negated i => match item f i with
    | .error e => .error e
    | .ok a => f.refuseNegated span negated (f.settle negated a)
  | .union _ is => (items f is).map .unions
  | .combined _ op i j => match item f i with
    | .error e => .error e
    | .ok a => match item f j with
      | .error e => .error e
      | .ok b =>
        let a := f.foldCase a
        let b := f.foldCase b
        .ok (match op with
          | .both => a.inter b
          | .without => a.without b
          | .either => a.either b)

def items (f : Flags) : List ClassItem → Except Error (List CharSet)
  | [] => .ok []
  | i :: is => match item f i with
    | .error e => .error e
    | .ok a => (items f is).map (a :: ·)

end

def condition (f : Flags) : Assertion → Condition
  | .startText => .startText
  | .endText => .endText
  | .startLine =>
    if !f.multiLine then .startText else if f.crlf then .startLineCrlf else .startLine
  | .endLine => if !f.multiLine then .endText else if f.crlf then .endLineCrlf else .endLine
  | .boundary => .boundary f.unicode
  | .notBoundary => .notBoundary f.unicode
  | .wordStart => .wordStart f.unicode
  | .wordEnd => .wordEnd f.unicode
  | .wordStartHalf => .wordStartHalf f.unicode
  | .wordEndHalf => .wordEndHalf f.unicode

end Flags

/-! ## From forms to patterns -/

/-- One character out of a set, with the flags behind it. -/
def oneOfSet (f : Flags) (r : Except Error CharSet) : Except Error (Pattern × Flags) :=
  r.map fun a => (.ofSet a, f)

mutual

/-- Applies flags to an expression. Gives the flags in force behind it. -/
def Pattern.ofForm (f : Flags) : Form → Except Error (Pattern × Flags)
  | .empty => .ok (.empty, f)
  | .flags changes => .ok (.empty, f.applyAll changes)
  | .literal l => (f.literal l).map fun p => (p, f)
  | .dot span => oneOfSet f (f.dot span)
  | .assertion a => .ok (.place (f.condition a), f)
  | .short span kind negated => oneOfSet f (f.short span kind negated)
  | .property span p negated => oneOfSet f (f.property span p negated)
  | .bracketed i => oneOfSet f (f.item i)
  | .repeated _ s least most => match Pattern.ofForm f s with
    | .error e => .error e
    | .ok (p, f) => .ok (p.times least most, f)
  | .group _ captured changes s => match Pattern.ofForm (f.applyAll changes) s with
    | .error e => .error e
    | .ok (p, _) => .ok (if captured then .capture p else p, f)
  | .oneOf _ branches => match Pattern.ofForms f branches with
    | .error e => .error e
    | .ok (ps, f) => .ok (.oneOf ps, f)
  | .inRow _ parts => match Pattern.ofForms f parts with
    | .error e => .error e
    | .ok (ps, f) => .ok (.inRow ps, f)

def Pattern.ofForms (f : Flags) : List Form → Except Error (List Pattern × Flags)
  | [] => .ok ([], f)
  | s :: ss => match Pattern.ofForm f s with
    | .error e => .error e
    | .ok (p, f) => match Pattern.ofForms f ss with
      | .error e => .error e
      | .ok (ps, f) => .ok (p :: ps, f)

end

def Pattern.parse (pattern : List Char) : Except Error Pattern :=
  match Form.parse pattern with
  | .error e => .error e
  | .ok form => (Pattern.ofForm {} form).map (·.1)

end Conformance.Regex
