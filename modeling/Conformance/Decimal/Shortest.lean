/-!
# The shortest decimal of a binary number

A binary floating-point number stands for every real that rounds to it.  Its
shortest decimal is the one with the fewest digits among the decimals in that
interval, and of two such the nearer one.

The search works on exact whole numbers.  A number is `m · 2 ^ q`, and the reals
that round to it lie between its neighbours' midpoints, ends included when `m` is
even.  For each power of ten, from large to small, only the two multiples next to
the number can be inside the interval closest to it; the first power with a hit
has the fewest digits.
-/
namespace Conformance.Decimal

/-- A decimal `digits · 10 ^ exponent`. -/
structure Scaled where
  digits : Nat
  exponent : Int
  deriving DecidableEq, Repr

/-- The non-negative part of a whole number. -/
def up (k : Int) : Nat := k.toNat

/-- The size of the negative part of a whole number. -/
def down (k : Int) : Nat := (-k).toNat

/-- The multiple of `10 ^ k` that stands for `m · 2 ^ q`, if one does. The interval's lower end is
half as far below when `narrow` holds, which is so where the spacing of the numbers doubles. -/
def hit? (m : Nat) (q : Int) (narrow : Bool) (k : Int) : Option Nat :=
  let num := Nat.pow 2 (up (q - 2)) * Nat.pow 10 (down k)
  let den := Nat.pow 10 (up k) * Nat.pow 2 (down (q - 2))
  let low := (4 * m - (if narrow then 1 else 2)) * num
  let mid := 4 * m * num
  let high := (4 * m + 2) * num
  let inside (c : Nat) : Bool :=
    if m % 2 = 0 then decide (low ≤ c * den) && decide (c * den ≤ high)
    else decide (low < c * den) && decide (c * den < high)
  let a := mid / den
  match inside a, inside (a + 1) with
  | true, true =>
    let below := mid - a * den
    let above := (a + 1) * den - mid
    if below < above then some a else if above < below then some (a + 1)
    else if a % 2 = 0 then some a else some (a + 1)
  | true, false => some a
  | false, true => some (a + 1)
  | false, false => none

/-- Tries the powers of ten from `10 ^ k` downwards. -/
def search (m : Nat) (q : Int) (narrow : Bool) : Nat → Int → Scaled
  | 0, k => ⟨m, k⟩
  | tries + 1, k => match hit? m q narrow k with
    | some d => ⟨d, k⟩
    | none => search m q narrow tries (k - 1)

/-- The shortest decimal of `m · 2 ^ q`. The powers tried are those between the largest and the
smallest double, with room for seventeen digits. -/
def shortest (m : Nat) (q : Int) (narrow : Bool) : Scaled := search m q narrow 660 309

/-! ## Doubles and their text -/

def isNegative (bits : UInt64) : Bool := bits >>> 63 == 1

def ofBits (bits : UInt64) : Scaled :=
  let field := ((bits >>> 52) &&& 0x7FF).toNat
  let fraction := (bits &&& 0xFFFFFFFFFFFFF).toNat
  if field = 0 then
    if fraction = 0 then ⟨0, 0⟩ else shortest fraction (-1074) false
  else shortest (fraction + 0x10000000000000) (field - 1075) (fraction = 0 && field > 1)

/-- The least and the greatest power of ten that are written without an exponent. -/
def positionalRange : Int × Int := (-5, 15)

def exponentText (e : Int) : List Char :=
  'e' :: (if e < 0 then '-' else '+') :: (toString e.natAbs).toList

/-- Writes a decimal: positionally with at least one place where its size allows, and with an
exponent elsewhere. -/
def text (d : Scaled) : List Char :=
  let digits := (toString d.digits).toList
  let e : Int := d.exponent + digits.length - 1
  if d.digits = 0 then ['0', '.', '0']
  else if positionalRange.1 ≤ e ∧ e ≤ positionalRange.2 then
    if 0 ≤ d.exponent then digits ++ List.replicate (up d.exponent) '0' ++ ['.', '0']
    else if 0 ≤ e then digits.take (up e + 1) ++ '.' :: digits.drop (up e + 1)
    else '0' :: '.' :: List.replicate (down e - 1) '0' ++ digits
  else
    match digits with
    | [] => []
    | [c] => c :: exponentText e
    | c :: cs => c :: '.' :: cs ++ exponentText e

def doubleText (bits : UInt64) : List Char :=
  (if isNegative bits then ['-'] else []) ++ text (ofBits bits)

end Conformance.Decimal
