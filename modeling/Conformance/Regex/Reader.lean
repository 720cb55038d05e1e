import Conformance.Regex.Form
import Conformance.Text.Property
import Conformance.Text.Split
/-!
# Reading regular expressions

The text of an expression is read from left to right.  A `Cursor` is what is left
of it, with the place it stands at and whether blanks and comments are passed
over.  Open groups and open classes are kept as stacks, so that a fault is found
at the first character that cannot be right, and an end of the text inside a
group or class points at the innermost one.
-/
namespace Conformance.Regex

/-! ## The cursor -/

structure Cursor where
  pos : Pos
  rest : List Char
  /-- Are blanks and comments passed over? -/
  loose : Bool
  deriving Repr

namespace Cursor

def posAfter (p : Pos) (c : Char) : Pos :=
  if c = '\n' then ⟨p.line + 1, 1⟩ else ⟨p.line, p.column + 1⟩

def bump (k : Cursor) : Cursor :=
  match k.rest with
  | [] => k
  | c :: cs => { k with pos := posAfter k.pos c, rest := cs }

/-- Passes over blanks and comments. -/
def skipBlanks (inComment : Bool) (p : Pos) : List Char → Pos × List Char
  | [] => (p, [])
  | c :: cs =>
    if inComment then skipBlanks (c != '\n') (posAfter p c) cs
    else if Text.isBlank c then skipBlanks false (posAfter p c) cs
    else if c = '#' then skipBlanks true (posAfter p c) cs
    else (p, c :: cs)

def skip (k : Cursor) : Cursor :=
  if k.loose then
    let (pos, rest) := skipBlanks false k.pos k.rest
    { k with pos := pos, rest := rest }
  else k

/-- Passes over one character and what may be skipped behind it. -/
def next (k : Cursor) : Cursor := k.bump.skip

def atEnd (k : Cursor) : Bool := k.rest.isEmpty

def sees (k : Cursor) (c : Char) : Bool := k.rest.head? == some c

def here (k : Cursor) : Span := ⟨k.pos, k.pos⟩

def hereChar (k : Cursor) : Span := ⟨k.pos, k.bump.pos⟩

/-- The character behind the next one, blanks passed over. -/
def peek (k : Cursor) : Option Char :=
  let after := k.rest.drop 1
  if k.loose then
    let r := after.dropWhile Text.isBlank
    let r := match r with
      | '#' :: cs => cs.dropWhile Text.isBlank
      | _ => r
    (r.head?).or after.head?
  else after.head?

/-- Passes over a word, if it is next. -/
def takeWord? (k : Cursor) (word : List Char) : Option Cursor :=
  if word.isPrefixOf k.rest then some (word.foldl (fun k _ => k.bump) k) else none

end Cursor

def refuse {α : Type} (fault : Fault) (span : Span) : Except Error α := .error { fault, span }

/-! ## Numbers and names -/

def blanks : Nat → Cursor → Cursor
  | 0, k => k
  | n + 1, k => if k.rest.head?.any Text.isBlank then blanks n k.bump else k

/-- The digits here, one step a digit. -/
def digits (isDigit : Char → Bool) : Nat → Cursor → List Char × Cursor
  | 0, k => ([], k)
  | n + 1, k => match k.rest with
    | [] => ([], k)
    | c :: _ =>
      if isDigit c then
        let (cs, k) := digits isDigit n k.next
        (c :: cs, k)
      else ([], k)

def valueOf (base : Nat) (cs : List Char) : Nat :=
  cs.foldl (fun n c => n * base + (Text.hexValue? c).getD 0) 0

/-- A decimal number of 32 bits, with blanks around it. -/
def readDecimal (k : Cursor) : Except Error Nat × Cursor :=
  let k := blanks k.rest.length k
  let (ds, k') := digits (fun c => '0' ≤ c && c ≤ '9') k.rest.length k
  let span : Span := ⟨k.pos, k'.pos⟩
  let rest := blanks k'.rest.length k'
  if ds.isEmpty then (refuse .decimalEmpty span, rest)
  else if valueOf 10 ds < UInt32.size then (.ok (valueOf 10 ds), rest)
  else (refuse .decimalInvalid span, rest)

def isHexDigit (c : Char) : Bool := (Text.hexValue? c).isSome

def charOf? (n : Nat) : Option Char := if n.isValidChar then some (Char.ofNat n) else none

/-- A hexadecimal number of so many digits; the cursor stands at its first digit. -/
def hexDigits (start : Pos) : Nat → List Char → Cursor → Except Error (List Char × Cursor)
  | 0, ds, k => .ok (ds.reverse, k)
  | n + 1, ds, k => match k.rest with
    | [] => refuse .escapeEnd k.here
    | c :: _ =>
      if isHexDigit c then hexDigits start n (c :: ds) k.next else refuse .hexDigit k.hereChar

/-- A hexadecimal number in braces; the cursor stands behind the opening one, at `brace`. -/
def hexBraces (brace : Pos) : Nat → List Char → Cursor → Except Error (List Char × Cursor)
  | 0, _, k => refuse .escapeEnd ⟨brace, k.pos⟩
  | n + 1, ds, k => match k.rest with
    | [] => refuse .escapeEnd ⟨brace, k.pos⟩
    | c :: _ =>
      if c = '\x7d' then .ok (ds.reverse, k)
      else if isHexDigit c then hexBraces brace n (c :: ds) k.next
      else refuse .hexDigit k.hereChar

/-- A character by its number, and whether it may mean a byte. The cursor stands at the letter that
says how it is written. -/
def readHex (k : Cursor) : Except Error (Char × Bool × Cursor) :=
  let count := match k.rest with
    | 'x' :: _ => 2
    | 'u' :: _ => 4
    | _ => 8
  let asByte := k.sees 'x'
  let k := k.next
  if k.atEnd then refuse .escapeEnd k.here
  else if k.sees '\x7b' then
    match hexBraces k.pos (k.rest.length + 1) [] k.next with
    | .error e => .error e
    | .ok (ds, e) =>
      if ds.isEmpty then refuse .hexEmpty ⟨k.pos, e.next.pos⟩
      else match charOf? (valueOf 16 ds) with
        | some c => .ok (c, false, e.next)
        | none => refuse .hexInvalid ⟨k.bump.pos, e.pos⟩
  else
    match hexDigits k.pos count [] k with
    | .error e => .error e
    | .ok (ds, e) => match charOf? (valueOf 16 ds) with
      | some c => .ok (c, asByte, e)
      | none => refuse .hexInvalid ⟨k.pos, e.pos⟩

/-! ## Escapes -/

/-- What one character or escape stands for. -/
inductive Primitive where
  | literal (l : Literal)
  | dot (span : Span)
  | assertion (span : Span) (a : Assertion)
  | short (span : Span) (kind : ShortClass) (negated : Bool)
  | property (span : Span) (p : Property) (negated : Bool)

def Primitive.span : Primitive → Span
  | .literal l => l.span
  | .dot s => s
  | .assertion s _ => s
  | .short s _ _ => s
  | .property s _ _ => s

def Primitive.form : Primitive → Form
  | .literal l => .literal l
  | .dot s => .dot s
  | .assertion _ a => .assertion a
  | .short s k n => .short s k n
  | .property s p n => .property s p n

def metaChars : List Char :=
  ['\\', '.', '+', '*', '?', '(', ')', '|', '[', ']', '\x7b', '\x7d', '^', '$', '#', '&', '-', '~']

/-- May a backslash stand in front of this character without giving it a meaning? -/
def isEscapable (c : Char) : Bool :=
  metaChars.contains c ||
    (c.toNat < 0x80 && !c.isAlphanum && c != '<' && c != '>')

def propertyName : Nat → List Char → Cursor → Except Error (List Char × Cursor)
  | 0, _, k => refuse .escapeEnd k.here
  | n + 1, cs, k => match k.rest with
    | [] => refuse .escapeEnd k.here
    | c :: _ => if c = '\x7d' then .ok (cs.reverse, k) else propertyName n (c :: cs) k.next

/-- Cuts a text at the first place where `sep` stands. -/
def cutAt? (sep : List Char) : List Char → Option (List Char × List Char)
  | [] => none
  | c :: cs =>
    if sep.isPrefixOf (c :: cs) then some ([], (c :: cs).drop sep.length)
    else (cutAt? sep cs).map fun r => (c :: r.1, r.2)

def propertyOf (cs : List Char) : Property :=
  match cutAt? ['!', '='] cs with
  | some (n, v) => .valued (String.ofList n) (String.ofList v) true
  | none => match cutAt? [':'] cs with
    | some (n, v) => .valued (String.ofList n) (String.ofList v) false
    | none => match cutAt? ['='] cs with
      | some (n, v) => .valued (String.ofList n) (String.ofList v) false
      | none => .named (String.ofList cs)

/-- A property. The cursor stands at its letter, and the escape began at `start`. -/
def readProperty (start : Pos) (k : Cursor) : Except Error (Primitive × Cursor) :=
  let negated := k.sees 'P'
  let k := k.next
  match k.rest with
  | [] => refuse .escapeEnd k.here
  | c :: _ =>
    if c = '\x7b' then
      match propertyName (k.rest.length + 1) [] k.next with
      | .error e => .error e
      | .ok (name, e) =>
        let e := e.bump
        .ok (.property ⟨start, e.pos⟩ (propertyOf name) negated, e)
    else if c = '\\' then refuse .propertyInvalid k.hereChar
    else
      let e := k.next
      .ok (.property ⟨start, e.pos⟩ (.named (String.ofList [c])) negated, e)

def isBoundaryChar (c : Char) : Bool := c.isAlpha || c == '-'

def boundaryOf? : String → Option Assertion
  | "start" => some .wordStart
  | "end" => some .wordEnd
  | "start-half" => some .wordStartHalf
  | "end-half" => some .wordEndHalf
  | _ => none

/-- A boundary of words, with a name in braces or without. The cursor stands behind its letter. A
brace in front of anything but a name is left for a count. -/
def readBoundary (start : Pos) (k : Cursor) : Except Error (Primitive × Cursor) :=
  let plain : Except Error (Primitive × Cursor) := .ok (.assertion ⟨start, k.pos⟩ .boundary, k)
  if !k.sees '\x7b' then plain
  else
    let inner := k.next
    if inner.atEnd then refuse .boundaryEnd ⟨start, inner.pos⟩
    else if !inner.rest.head?.any isBoundaryChar then plain
    else
      let (name, e) := digits isBoundaryChar inner.rest.length inner
      if !e.sees '\x7d' then refuse .boundaryUnclosed ⟨k.pos, e.pos⟩
      else match boundaryOf? (String.ofList name) with
        | some a => .ok (.assertion ⟨start, e.bump.pos⟩ a, e.bump)
        | none => refuse .boundaryUnknown ⟨inner.pos, e.pos⟩

/-- An escape. The cursor stands at its backslash. -/
def readEscape (k : Cursor) : Except Error (Primitive × Cursor) :=
  let start := k.pos
  let k := k.bump
  match k.rest with
  | [] => refuse .escapeEnd ⟨start, k.pos⟩
  | c :: _ =>
    let e := k.bump
    let span : Span := ⟨start, e.pos⟩
    let literal (d : Char) : Except Error (Primitive × Cursor) :=
      .ok (.literal { span, char := d }, e)
    let assertion (a : Assertion) : Except Error (Primitive × Cursor) := .ok (.assertion span a, e)
    let short (kind : ShortClass) (negated : Bool) : Except Error (Primitive × Cursor) :=
      .ok (.short span kind negated, e)
    if '0' ≤ c ∧ c ≤ '9' then refuse .backreference span
    else if c = 'x' ∨ c = 'u' ∨ c = 'U' then
      match readHex k with
      | .error e => .error e
      | .ok (d, asByte, e) => .ok (.literal ⟨⟨start, e.pos⟩, d, asByte⟩, e)
    else if c = 'p' ∨ c = 'P' then readProperty start k
    else if isEscapable c then literal c
    else match c with
      | 'd' => short .digit false
      | 'D' => short .digit true
      | 's' => short .space false
      | 'S' => short .space true
      | 'w' => short .word false
      | 'W' => short .word true
      | 'a' => literal '\x07'
      | 'f' => literal '\x0c'
      | 't' => literal '\t'
      | 'n' => literal '\n'
      | 'r' => literal '\r'
      | 'v' => literal '\x0b'
      | 'A' => assertion .startText
      | 'z' => assertion .endText
      | 'b' => readBoundary start e
      | 'B' => assertion .notBoundary
      | '<' => assertion .wordStart
      | '>' => assertion .wordEnd
      | _ => refuse .escapeUnknown span

/-! ## Classes -/

def Primitive.classItem : Primitive → Except Error ClassItem
  | .literal l => .ok (.literal l)
  | .short s k n => .ok (.short s k n)
  | .property s p n => .ok (.property s p n)
  | p => refuse .classEscape p.span

def Primitive.classBound : Primitive → Except Error Literal
  | .literal l => .ok l
  | p => refuse .classRangeBound p.span

/-- The items of a class, the last one first, and where they begin. -/
structure Items where
  start : Pos
  items : List ClassItem := []

def Items.push (is : Items) (i : ClassItem) : Items := { is with items := i :: is.items }

def Items.union (is : Items) : ClassItem :=
  match is.items with
  | [] => .union ⟨is.start, is.start⟩ []
  | [i] => i
  | i :: rest => .union ⟨(rest.getLastD i).span.start, i.span.stop⟩ (i :: rest).reverse

/-- An open class: the items of the class around it, its stretch so far, whether it is negated,
and what stands in front of its last operator. -/
structure OpenClass where
  outer : Items
  span : Span
  negated : Bool
  left : Option (ClassOp × ClassItem)

def readItem (k : Cursor) : Except Error (Primitive × Cursor) :=
  match k.rest with
  | '\\' :: _ => readEscape k
  | c :: _ => .ok (.literal { span := k.hereChar, char := c }, k.bump)
  | [] => refuse .classUnclosed k.here

/-- A character or a range in a class whose opening is at `opening`. -/
def readRange (opening : Span) (k : Cursor) : Except Error (ClassItem × Cursor) :=
  match readItem k with
  | .error e => .error e
  | .ok (p, k) =>
    let k := k.skip
    if k.atEnd then refuse .classUnclosed opening
    else if !k.sees '-' || k.peek == some ']' || k.peek == some '-' then
      p.classItem.map fun i => (i, k)
    else
      let k := k.next
      if k.atEnd then refuse .classUnclosed opening
      else match readItem k with
        | .error e => .error e
        | .ok (q, k) => match p.classBound with
          | .error e => .error e
          | .ok lo => match q.classBound with
            | .error e => .error e
            | .ok hi =>
              let range : ClassItem := .range lo hi
              if hi.char < lo.char then refuse .classRange range.span else .ok (range, k)

/-- Hyphens at the start of a class stand for themselves. -/
def leadingHyphens (start : Pos) : Nat → Items → Cursor → Except Error (Items × Cursor)
  | 0, is, k => .ok (is, k)
  | n + 1, is, k =>
    if k.sees '-' then
      let is := is.push (.literal { span := k.hereChar, char := '-' })
      let k := k.next
      if k.atEnd then refuse .classUnclosed ⟨start, start⟩ else leadingHyphens start n is k
    else .ok (is, k)

/-- The opening of a class: its bracket, a negation, and the characters that stand for themselves
only there. Gives whether it is negated and its first items. -/
def openClass (k : Cursor) : Except Error (Bool × Items × Cursor) :=
  let start := k.pos
  let k := k.next
  if k.atEnd then refuse .classUnclosed ⟨start, k.pos⟩
  else
    let negated := k.sees '^'
    let k := if negated then k.next else k
    if k.atEnd then refuse .classUnclosed ⟨start, k.pos⟩
    else match leadingHyphens start k.rest.length { start := k.pos } k with
      | .error e => .error e
      | .ok (is, k) =>
        if is.items.isEmpty && k.sees ']' then
          let is := is.push (.literal { span := k.hereChar, char := ']' })
          let k := k.next
          if k.atEnd then refuse .classUnclosed ⟨start, k.pos⟩ else .ok (negated, is, k)
        else .ok (negated, is, k)

def asciiClass? (k : Cursor) : Option (ClassItem × Cursor) :=
  let start := k.pos
  match k.takeWord? ['[', ':'] with
  | none => none
  | some k =>
    let negated := k.sees '^'
    let k := if negated then k.bump else k
    let name := k.rest.takeWhile (· != ':')
    let e := name.foldl (fun k _ => k.bump) k
    match e.takeWord? [':', ']'], AsciiClass.ofName? (String.ofList name) with
    | some e, some kind => some (.ascii ⟨start, e.pos⟩ kind negated, e)
    | _, _ => none

/-- What has been read of a class, with what stands in front of its last operator. -/
def OpenClass.sofar (o : OpenClass) (is : Items) : ClassItem :=
  match o.left with
  | none => is.union
  | some (op, left) => .combined ⟨left.span.start, is.union.span.stop⟩ op left is.union

def classOp? (k : Cursor) : Option (ClassOp × Cursor) :=
  match k.rest with
  | '&' :: '&' :: _ => some (.both, k.bump.bump)
  | '-' :: '-' :: _ => some (.without, k.bump.bump)
  | '~' :: '~' :: _ => some (.either, k.bump.bump)
  | _ => none

/-- Reads a class in at most so many steps, with the classes open around the cursor and the items
of the innermost one. -/
def classSteps : Nat → OpenClass → List OpenClass → Items → Cursor →
    Except Error (ClassItem × Cursor)
  | 0, o, _, _, _ => refuse .classUnclosed o.span
  | n + 1, o, outer, is, k =>
    let k := k.skip
    match k.rest with
    | [] => refuse .classUnclosed o.span
    | c :: _ =>
      if c = '[' then
        match asciiClass? k with
        | some (i, e) => classSteps n o outer (is.push i) e
        | none => match openClass k with
          | .error e => .error e
          | .ok (negated, first, e) =>
            classSteps n ⟨is, ⟨k.pos, e.pos⟩, negated, none⟩ (o :: outer) first e
      else if c = ']' then
        let e := k.bump
        let whole := .bracketed ⟨o.span.start, e.pos⟩ o.negated (o.sofar is)
        match outer with
        | [] => .ok (whole, e)
        | o' :: outer => classSteps n o' outer (o.outer.push whole) e
      else match classOp? k with
        | some (op, e) =>
          classSteps n { o with left := some (op, o.sofar is) } outer { start := e.pos } e
        | none => match readRange o.span k with
          | .error e => .error e
          | .ok (i, e) => classSteps n o outer (is.push i) e

/-- A class in brackets. The cursor stands at its opening bracket. -/
def readBracketed (k : Cursor) : Except Error (ClassItem × Cursor) :=
  match openClass k with
  | .error e => .error e
  | .ok (negated, first, e) =>
    classSteps (k.rest.length + 1) ⟨{ start := k.pos }, ⟨k.pos, e.pos⟩, negated, none⟩ [] first e

/-! ## Flags and groups -/

/-- The flags of a group up to a colon or parenthesis, in at most so many steps. `read` holds the
flags and negations so far with their places, the last one first. -/
def flagSteps : Nat → Option Span → List (Option Flag × Span) → Cursor →
    Except Error (List (Option Flag × Span) × Cursor)
  | 0, _, _, k => refuse .flagEnd k.here
  | n + 1, dangling, read, k => match k.rest with
    | [] => refuse .flagEnd k.here
    | c :: _ =>
      if c = ':' ∨ c = ')' then
        match dangling with
        | some span => refuse .flagDangling span
        | none => .ok (read, k)
      else
        let add (f : Option Flag) (twice : Fault) :
            Except Error (List (Option Flag × Span) × Cursor) :=
          match read.find? (·.1 == f) with
          | some (_, earlier) =>
            .error { fault := twice, span := k.hereChar, earlier := some earlier }
          | none =>
            let dangling := if f.isNone then some k.hereChar else none
            flagSteps n dangling ((f, k.hereChar) :: read) k.bump
        if c = '-' then add none .flagNegatedTwice
        else match Flag.ofChar? c with
          | none => refuse .flagUnknown k.hereChar
          | some f => add (some f) .flagDuplicate

/-- The changes that flags make: those behind a negation are cleared. -/
def changesOf (read : List (Option Flag × Span)) : FlagChanges :=
  let step (acc : FlagChanges × Bool) (i : Option Flag × Span) : FlagChanges × Bool :=
    match i.1 with
    | none => (acc.1, false)
    | some f => (acc.1 ++ [(f, acc.2)], acc.2)
  (read.reverse.foldl step ([], true)).1

def isNameChar (first : Bool) (c : Char) : Bool :=
  c == '_' || Text.isAlphabetic c ||
    (!first && (c == '.' || c == '[' || c == ']' || Text.isNumeric c))

/-- The name of a group up to its end, in at most so many steps. -/
def nameSteps : Nat → List Char → Cursor → Except Error (List Char × Cursor)
  | 0, _, k => refuse .nameEnd k.here
  | n + 1, cs, k => match k.rest with
    | [] => refuse .nameEnd k.here
    | c :: _ =>
      if c = '>' then .ok (cs.reverse, k)
      else if isNameChar cs.isEmpty c then nameSteps n (c :: cs) k.bump
      else refuse .nameInvalid k.hereChar

abbrev GroupNames := List (List Char × Span)

/-- The name of a group, which no other group may have. The cursor stands behind `<`. -/
def readGroupName (names : GroupNames) (k : Cursor) : Except Error (GroupNames × Cursor) :=
  match nameSteps (k.rest.length + 1) [] k with
  | .error e => .error e
  | .ok (name, e) =>
    let span : Span := ⟨k.pos, e.pos⟩
    if name.isEmpty then refuse .nameEmpty k.here
    else match names.find? (·.1 == name) with
      | some (_, earlier) =>
        .error { fault := .nameDuplicate, span := span, earlier := some earlier }
      | none => .ok ((name, span) :: names, e.bump)

/-- What an opening parenthesis begins: flags for what follows, or a group. -/
inductive Opening where
  | flags (changes : FlagChanges)
  | group (captured : Bool) (changes : FlagChanges) (names : GroupNames)

/-- What stands behind an opening parenthesis. The cursor stands at the parenthesis. -/
def readOpening (names : GroupNames) (k : Cursor) : Except Error (Opening × Cursor) :=
  let paren := k.hereChar
  let k := k.next
  let lookAround := [['?', '='], ['?', '!'], ['?', '<', '='], ['?', '<', '!']].findSome? k.takeWord?
  match lookAround with
  | some e => refuse .lookAround ⟨paren.start, e.pos⟩
  | none => match (k.takeWord? ['?', 'P', '<']).or (k.takeWord? ['?', '<']) with
    | some e => match readGroupName names e with
      | .error e => .error e
      | .ok (names, e) => .ok (.group true [] names, e)
    | none => match k.takeWord? ['?'] with
      | none => .ok (.group true [] names, k)
      | some e =>
        if e.atEnd then refuse .groupUnclosed paren
        else match flagSteps (e.rest.length + 1) none [] e with
          | .error e => .error e
          | .ok (read, e) =>
            if e.sees ')' then
              if read.isEmpty then refuse .nothingToRepeat k.here
              else .ok (.flags (changesOf read), e.bump)
            else .ok (.group false (changesOf read) names, e.bump)

/-! ## Repetitions -/

/-- Parts in a row with the places where they begin, the last one first. -/
abbrev Parts := List (Pos × Form)

/-- The last part of a row, if it can be repeated. -/
def repeatable (k : Cursor) : Parts → Except Error (Pos × Form × Parts)
  | [] => refuse .nothingToRepeat k.here
  | (_, .flags _) :: _ => refuse .nothingToRepeat k.here
  | (p, s) :: parts => .ok (p, s, parts)

/-- An empty decimal is a missing count. -/
def asCount : Except Error Nat → Except Error Nat
  | .error e => .error (if e.fault = .decimalEmpty then { e with fault := .countEmpty } else e)
  | .ok n => .ok n

/-- The bounds of a counted repetition up to its closing brace. The cursor stands at the opening
one. -/
def readCounts (k : Cursor) : Except Error (Nat × Option Nat × Cursor) :=
  let start := k.pos
  let unclosed (k : Cursor) : Except Error (Nat × Option Nat × Cursor) :=
    refuse .countUnclosed ⟨start, k.pos⟩
  let close (least : Nat) (most : Option Nat) (k : Cursor) :
      Except Error (Nat × Option Nat × Cursor) :=
    if k.sees '\x7d' then .ok (least, most, k) else unclosed k
  let k := k.next
  if k.atEnd then unclosed k
  else
    let (first, k) := readDecimal k
    if k.atEnd then unclosed k
    else if k.sees ',' then
      let k := k.next
      if k.atEnd then unclosed k
      else match asCount first with
        | .error e => .error e
        | .ok least =>
          if k.sees '\x7d' then close least none k
          else
            let (second, k) := readDecimal k
            match asCount second with
            | .error e => .error e
            | .ok most => close least (some most) k
    else match asCount first with
      | .error e => .error e
      | .ok n => close n (some n) k

/-- A counted repetition of a part that begins at `start`. The cursor stands at the opening
brace. -/
def readCounted (start : Pos) (s : Form) (k : Cursor) : Except Error (Form × Cursor) :=
  match readCounts k with
  | .error e => .error e
  | .ok (least, most, e) =>
    let e := e.next
    let e := if e.sees '?' then e.bump else e
    if most.any (· < least) then refuse .countRange ⟨k.pos, e.pos⟩
    else .ok (.repeated ⟨start, e.pos⟩ s least most, e)

/-! ## The whole expression -/

/-- What has been read of a group: where its first branch and the branch at hand begin, the
complete branches and the parts of the branch at hand, the last ones first. -/
structure Level where
  first : Pos
  start : Pos
  branches : List Form := []
  parts : Parts := []

namespace Level

def opened (p : Pos) : Level := { first := p, start := p }

def push (l : Level) (p : Pos) (s : Form) : Level := { l with parts := (p, s) :: l.parts }

def row (l : Level) (stop : Pos) : Form :=
  match l.parts with
  | [] => .empty
  | [(_, s)] => s
  | parts => .inRow ⟨l.start, stop⟩ (parts.reverse.map (·.2))

def whole (l : Level) (stop : Pos) : Form :=
  match l.branches with
  | [] => l.row stop
  | branches => .oneOf ⟨l.first, stop⟩ (l.row stop :: branches).reverse

def pipe (l : Level) (stop start : Pos) : Level :=
  { l with start := start, branches := l.row stop :: l.branches, parts := [] }

end Level

/-- An open group: what stands before it, where it opens, whether it is captured, what its flags
change, and whether blanks were passed over outside of it. -/
structure OpenGroup where
  outer : Level
  span : Span
  captured : Bool
  changes : FlagChanges
  loose : Bool

/-- What passing over blanks is after some changes. -/
def looseAfter (changes : FlagChanges) (loose : Bool) : Bool :=
  ((changes.find? (·.1 == .loose)).map (·.2)).getD loose

/-- Reads an expression in at most so many steps: with the groups open around the cursor, and what
has been read of the innermost one. -/
def readSteps : Nat → GroupNames → List OpenGroup → Level → Cursor → Except Error Form
  | 0, _, _, l, k => .ok (l.whole k.pos)
  | n + 1, names, groups, l, k =>
    let k := k.skip
    match k.rest with
    | [] => match groups with
      | [] => .ok (l.whole k.pos)
      | g :: _ => refuse .groupUnclosed g.span
    | c :: _ =>
      if c = '(' then
        match readOpening names k with
        | .error e => .error e
        | .ok (.flags changes, e) =>
          readSteps n names groups (l.push k.pos (.flags changes))
            { e with loose := looseAfter changes k.loose }
        | .ok (.group captured changes names, e) =>
          readSteps n names (⟨l, k.hereChar, captured, changes, k.loose⟩ :: groups)
            (.opened e.pos) { e with loose := looseAfter changes k.loose }
      else if c = ')' then
        match groups with
        | [] => refuse .groupUnopened k.hereChar
        | g :: groups =>
          let e := k.bump
          let whole := .group ⟨g.span.start, e.pos⟩ g.captured g.changes (l.whole k.pos)
          readSteps n names groups (g.outer.push g.span.start whole) { e with loose := g.loose }
      else if c = '|' then readSteps n names groups (l.pipe k.pos k.bump.pos) k.bump
      else if c = '[' then
        match readBracketed k with
        | .error e => .error e
        | .ok (i, e) => readSteps n names groups (l.push k.pos (.bracketed i)) e
      else if c = '?' ∨ c = '*' ∨ c = '+' then
        match repeatable k l.parts with
        | .error e => .error e
        | .ok (start, s, parts) =>
          let least := if c = '+' then 1 else 0
          let most := if c = '?' then some 1 else none
          let e := k.bump
          let e := if e.sees '?' then e.bump else e
          let whole := .repeated ⟨start, e.pos⟩ s least most
          readSteps n names groups ({ l with parts := parts }.push start whole) e
      else if c = '\x7b' then
        match repeatable k l.parts with
        | .error e => .error e
        | .ok (start, s, parts) => match readCounted start s k with
          | .error e => .error e
          | .ok (whole, e) =>
            readSteps n names groups ({ l with parts := parts }.push start whole) e
      else if c = '\\' then
        match readEscape k with
        | .error e => .error e
        | .ok (p, e) => readSteps n names groups (l.push k.pos p.form) e
      else
        let part : Form :=
          if c = '.' then .dot k.hereChar
          else if c = '^' then .assertion .startLine
          else if c = '$' then .assertion .endLine
          else .literal { span := k.hereChar, char := c }
        readSteps n names groups (l.push k.pos part) k.bump

/-- Reads an expression, which must not be nested too deep. -/
def Form.parse (pattern : List Char) : Except Error Form :=
  let start : Pos := ⟨1, 1⟩
  match readSteps (pattern.length + 1) [] [] (.opened start) ⟨start, pattern, false⟩ with
  | .error e => .error e
  | .ok form => match form.tooDeep? 0 with
    | some span => refuse .nestedTooDeep span
    | none => .ok form

end Conformance.Regex
