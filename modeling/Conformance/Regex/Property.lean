import Conformance.Regex.Form
import Conformance.Text.Age
import Conformance.Text.Break
/-!
# Classes by name

The sets that an expression can name: those in brackets and colons, those of a
letter, and the properties of Unicode.  Names of properties and of their values
are compared without case, blanks, hyphens and underscores.
-/
namespace Conformance.Regex

open Text (CharSet)

def AsciiClass.set : AsciiClass → CharSet
  | .alnum => .ofTable "30-39 41-5A 61-7A"
  | .alpha => .ofTable "41-5A 61-7A"
  | .ascii => .ofTable "0-7F"
  | .blank => .ofTable "9 20"
  | .cntrl => .ofTable "0-1F 7F"
  | .digit => .ofTable "30-39"
  | .graph => .ofTable "21-7E"
  | .lower => .ofTable "61-7A"
  | .print => .ofTable "20-7E"
  | .punct => .ofTable "21-2F 3A-40 5B-60 7B-7E"
  | .space => .ofTable "9-D 20"
  | .upper => .ofTable "41-5A"
  | .word => .ofTable "30-39 41-5A 5F 61-7A"
  | .xdigit => .ofTable "30-39 41-46 61-66"

/-- The classes that a letter names, in all scripts or in ASCII alone. -/
def ShortClass.set (unicode : Bool) : ShortClass → CharSet
  | .digit => if unicode then .digit else AsciiClass.digit.set
  | .space => if unicode then .space else AsciiClass.space.set
  | .word => if unicode then .word else AsciiClass.word.set

/-! ## Names -/

def dropIs : List Char → List Char
  | a :: b :: rest => if a.toLower = 'i' ∧ b.toLower = 's' then rest else a :: b :: rest
  | cs => cs

/-- A name as it is compared: in ASCII, without blanks, hyphens, underscores and case, and without
an `is` in front of it. Only the name `isc` keeps it, as it would be another name without. -/
def comparedName (cs : List Char) : List Char :=
  let name := ((dropIs cs).filter fun c =>
    c != ' ' && c != '_' && c != '-' && c.toNat < 0x80).map Char.toLower
  if name = ['c'] ∧ dropIs cs ≠ cs then ['i', 's', 'c'] else name

/-- Does one of the names of a table mean the same as a name? -/
def sameName (name : String) : List Char → Bool :=
  let wanted := comparedName name.toList
  fun cs => comparedName cs == wanted

/-- The names of general categories, short and long, as they are compared. A name without a second
letter stands for all categories with the first one. -/
def categoryNames : List (String × Char × Option Char) := [
  ("l", 'L', none), ("letter", 'L', none),
  ("lu", 'L', some 'u'), ("uppercaseletter", 'L', some 'u'),
  ("ll", 'L', some 'l'), ("lowercaseletter", 'L', some 'l'),
  ("lt", 'L', some 't'), ("titlecaseletter", 'L', some 't'),
  ("lm", 'L', some 'm'), ("modifierletter", 'L', some 'm'),
  ("lo", 'L', some 'o'), ("otherletter", 'L', some 'o'),
  ("m", 'M', none), ("mark", 'M', none), ("combiningmark", 'M', none),
  ("mn", 'M', some 'n'), ("nonspacingmark", 'M', some 'n'),
  ("mc", 'M', some 'c'), ("spacingmark", 'M', some 'c'),
  ("me", 'M', some 'e'), ("enclosingmark", 'M', some 'e'),
  ("n", 'N', none), ("number", 'N', none),
  ("nd", 'N', some 'd'), ("decimalnumber", 'N', some 'd'), ("digit", 'N', some 'd'),
  ("nl", 'N', some 'l'), ("letternumber", 'N', some 'l'),
  ("no", 'N', some 'o'), ("othernumber", 'N', some 'o'),
  ("p", 'P', none), ("punctuation", 'P', none), ("punct", 'P', none),
  ("pc", 'P', some 'c'), ("connectorpunctuation", 'P', some 'c'),
  ("pd", 'P', some 'd'), ("dashpunctuation", 'P', some 'd'),
  ("ps", 'P', some 's'), ("openpunctuation", 'P', some 's'),
  ("pe", 'P', some 'e'), ("closepunctuation", 'P', some 'e'),
  ("pi", 'P', some 'i'), ("initialpunctuation", 'P', some 'i'),
  ("pf", 'P', some 'f'), ("finalpunctuation", 'P', some 'f'),
  ("po", 'P', some 'o'), ("otherpunctuation", 'P', some 'o'),
  ("s", 'S', none), ("symbol", 'S', none),
  ("sm", 'S', some 'm'), ("mathsymbol", 'S', some 'm'),
  ("sc", 'S', some 'c'), ("currencysymbol", 'S', some 'c'),
  ("sk", 'S', some 'k'), ("modifiersymbol", 'S', some 'k'),
  ("so", 'S', some 'o'), ("othersymbol", 'S', some 'o'),
  ("z", 'Z', none), ("separator", 'Z', none),
  ("zs", 'Z', some 's'), ("spaceseparator", 'Z', some 's'),
  ("zl", 'Z', some 'l'), ("lineseparator", 'Z', some 'l'),
  ("zp", 'Z', some 'p'), ("paragraphseparator", 'Z', some 'p'),
  ("c", 'C', none), ("other", 'C', none),
  ("cc", 'C', some 'c'), ("control", 'C', some 'c'), ("cntrl", 'C', some 'c'),
  ("cf", 'C', some 'f'), ("format", 'C', some 'f'),
  ("cn", 'C', some 'n'), ("unassigned", 'C', some 'n'),
  ("co", 'C', some 'o'), ("privateuse", 'C', some 'o')]

/-! ## Values of properties

Each of these gives nothing for a name that is not known, and a fault for one that is known and has
no characters. -/

/-- A set, or the fault of a value without characters. -/
def setOrFault (s : Option CharSet) : Except Fault CharSet :=
  match s with
  | some s => .ok s
  | none => .error .propertyValueNotFound

def ofCategoryName? (name : String) : Option (Except Fault CharSet) :=
  match String.ofList (comparedName name.toList) with
  | "any" => some (.ok .all)
  | "ascii" => some (.ok AsciiClass.ascii.set)
  | "assigned" => some (.ok (CharSet.ofKinds [('C', 'n')]).compl)
  | "lc" => some (.ok (.ofKinds [('L', 'u'), ('L', 'l'), ('L', 't')]))
  | "casedletter" => some (.ok (.ofKinds [('L', 'u'), ('L', 'l'), ('L', 't')]))
  | "cs" => some (.error .propertyValueNotFound)
  | "surrogate" => some (.error .propertyValueNotFound)
  | n => (categoryNames.find? (·.1 == n)).map fun e => .ok (match e.2.2 with
    | none => .ofMajors [e.2.1]
    | some minor => .ofKinds [(e.2.1, minor)])

/-- The scripts that no character has. -/
def voidScripts : List (List Char) := ["Hrkt".toList, "Zzzz".toList]

/-- The set of a script, by its own characters or by all that are used in it. -/
def ofScriptName? (set : List Char → CharSet) (name : String) : Option (Except Fault CharSet) :=
  (Text.scriptCode? (sameName name)).map fun code =>
    setOrFault (if voidScripts.contains code then none else some (set code))

def ofBreakName? (names : String) (set : String → Option CharSet) (name : String) :
    Option (Except Fault CharSet) :=
  (Text.breakName? names (sameName name)).map fun n => setOrFault (set n)

/-- The set of a value of a property, which is told by its long name. -/
def ofValue (property value : String) : Except Fault CharSet :=
  let found := match property with
    | "General_Category" => ofCategoryName? value
    | "Script" => ofScriptName? .ofScript value
    | "Script_Extensions" => ofScriptName? .ofScriptUse value
    | "Age" => (CharSet.ofAge? (sameName value)).map .ok
    | "Grapheme_Cluster_Break" =>
      ofBreakName? Text.graphemeNamesText CharSet.ofGraphemeBreak? value
    | "Word_Break" => ofBreakName? Text.wordNamesText CharSet.ofWordBreak? value
    | "Sentence_Break" => ofBreakName? Text.sentenceNamesText CharSet.ofSentenceBreak? value
    | _ => none
  match found with
  | some r => r
  | none => .error .propertyValueNotFound

/-! ## Properties -/

/-- The names of general categories that are names of other properties too. -/
def ambiguousNames : List String := ["cf", "sc", "lc"]

/-- The set of a bare name: that of a property, a category or a script, in this order. -/
def ofName (name : String) : Except Fault CharSet :=
  let property :=
    if ambiguousNames.contains (String.ofList (comparedName name.toList)) then none
    else Text.propertyName? (sameName name)
  match property with
  | some long => match CharSet.ofProperty? (String.ofList long) with
    | some s => .ok s
    | none => .error .propertyNotFound
  | none => match (ofCategoryName? name).or (ofScriptName? .ofScript name) with
    | some r => r
    | none => .error .propertyNotFound

def Property.set : Property → Except Fault CharSet
  | .named name => ofName name
  | .valued name value _ => match Text.propertyName? (sameName name) with
    | some long => ofValue (String.ofList long) value
    | none => .error .propertyNotFound

def Property.isNegated : Property → Bool
  | .named _ => false
  | .valued _ _ negated => negated

end Conformance.Regex
