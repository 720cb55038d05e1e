import Conformance.Run.Report
/-!
# Arguments

The first argument chooses the way to run; the others are switches and names.
Switches may stand anywhere.  One that takes a value takes it from the same
argument, behind an equals sign or, for the short form, right behind the letter,
or else from the next argument.  Two dashes end the switches.

Arguments are read from left to right, and the first one that settles the matter
counts: a request for help or the version, or a mistake.  A switch that stands
twice, lacks its value or is not known is a mistake.
-/
namespace Conformance

namespace Arguments

inductive Format where
  | text
  | github
  deriving DecidableEq, Repr

def Format.ofName? : String → Option Format
  | "text" => some .text
  | "github" => some .github
  | _ => none

inductive Switch where
  | project
  | listRules
  | format
  | reportOut
  | help
  | version
  deriving DecidableEq, Repr

def Switch.long : Switch → String
  | .project => "project"
  | .listRules => "list-rules"
  | .format => "format"
  | .reportOut => "report-out"
  | .help => "help"
  | .version => "version"

def Switch.letter? : Switch → Option Char
  | .project => some 'p'
  | .help => some 'h'
  | .version => some 'V'
  | _ => none

def Switch.takesValue : Switch → Bool
  | .project => true
  | .format => true
  | .reportOut => true
  | _ => false

def switches : Mode → List Switch
  | .direct => [.project, .listRules, .format, .reportOut, .help, .version]
  | .build => [.format, .reportOut, .help]

structure Settings where
  /-- Arguments that are no switches: root files or projects. -/
  names : List String := []
  project : Option String := none
  listRules : Bool := false
  format : Option Format := none
  reportOut : Option String := none
  deriving DecidableEq, Repr

/-- What ends the reading of arguments early. -/
inductive Stop where
  | help
  | version
  | mistake
  deriving DecidableEq, Repr

namespace Settings

def addName (s : Settings) (name : String) : Settings := { s with names := s.names ++ [name] }

def give (s : Settings) (switch : Switch) (value : String) : Except Stop Settings :=
  match switch with
  | .project => if s.project.isSome then .error .mistake else .ok { s with project := some value }
  | .reportOut =>
    if s.reportOut.isSome then .error .mistake else .ok { s with reportOut := some value }
  | .format =>
    if s.format.isSome then .error .mistake
    else match Format.ofName? value with
      | none => .error .mistake
      | some f => .ok { s with format := some f }
  | _ => .error .mistake

def set (s : Settings) (switch : Switch) : Except Stop Settings :=
  match switch with
  | .help => .error .help
  | .version => .error .version
  | .listRules => if s.listRules then .error .mistake else .ok { s with listRules := true }
  | _ => .error .mistake

end Settings

/-- The settings so far, and the switch that waits for its value. -/
structure State where
  settings : Settings := {}
  waiting : Option Switch := none
  deriving DecidableEq, Repr

def splitEquals : List Char → List Char × Option (List Char)
  | [] => ([], none)
  | c :: cs =>
    if c = '=' then ([], some cs)
    else
      let (front, value) := splitEquals cs
      (c :: front, value)

def readLong (known : List Switch) (s : Settings) (cs : List Char) : Except Stop State :=
  let (name, value) := splitEquals cs
  match known.find? (·.long.toList == name) with
  | none => .error .mistake
  | some switch => match switch.takesValue, value with
    | true, some v => (s.give switch (String.ofList v)).map (⟨·, none⟩)
    | true, none => .ok ⟨s, some switch⟩
    | false, some _ => .error .mistake
    | false, none => (s.set switch).map (⟨·, none⟩)

/-- Reads short switches, behind their dash. One that takes a value takes the rest as it. -/
def readShort (known : List Switch) : Settings → List Char → Except Stop State
  | s, [] => .ok ⟨s, none⟩
  | s, c :: cs => match known.find? (·.letter? == some c) with
    | none => .error .mistake
    | some switch =>
      if switch.takesValue then match cs with
        | [] => .ok ⟨s, some switch⟩
        | '=' :: value => (s.give switch (String.ofList value)).map (⟨·, none⟩)
        | value => (s.give switch (String.ofList value)).map (⟨·, none⟩)
      else match s.set switch with
        | .error e => .error e
        | .ok s => readShort known s cs

def readFrom (known : List Switch) : State → List String → Except Stop Settings
  | ⟨s, none⟩, [] => .ok s
  | ⟨_, some _⟩, [] => .error .mistake
  | ⟨s, waiting⟩, argument :: rest => match argument.toList, waiting with
    | ['-', '-'], none => .ok (rest.foldl Settings.addName s)
    | '-' :: '-' :: cs, none => match readLong known s cs with
      | .error e => .error e
      | .ok state => readFrom known state rest
    | '-' :: c :: cs, none => match readShort known s (c :: cs) with
      | .error e => .error e
      | .ok state => readFrom known state rest
    | _, none => readFrom known ⟨s.addName argument, none⟩ rest
    | '-' :: _ :: _, some _ => .error .mistake
    | _, some switch => match s.give switch argument with
      | .error e => .error e
      | .ok s => readFrom known ⟨s, none⟩ rest

def read (mode : Mode) (arguments : List String) : Except Stop Settings :=
  readFrom (switches mode) {} arguments

/-- The way to run that the first argument chooses, and the arguments that are left for it. -/
def selectMode : List String → Mode × List String
  | [] => (.direct, [])
  | first :: rest =>
    if first ∈ ["-b", "--build", "build"] then (.build, rest) else (.direct, first :: rest)

end Arguments

end Conformance
