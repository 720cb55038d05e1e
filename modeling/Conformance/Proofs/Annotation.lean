import Conformance.Render
import Conformance.Proofs.Text.Field
import Conformance.Text.Table
/-!
# Reading annotations back

An annotation is a command in one line, with marks between its parts: colons, commas and the words
`file=`, `line=` and `col=`.  Paths, names of rules and messages come from outside and may hold all
of these, line ends and per cent signs included.  They are escaped, and so nothing in them is taken
for a mark.

`Annotation.read?` knows nothing of diagnostics: it cuts a line at the marks and reverses the
escapes.  It gets back what the annotation was to say (`read?_annotation`), so two diagnostics have
one annotation only when there is nothing to tell them apart by.
-/
namespace Conformance

structure Annotation where
  level : String
  /-- The path, with the line and the column. -/
  place : Option (ProjectPath × Text.Position)
  /-- The name in brackets and the message. -/
  text : String
  deriving DecidableEq, Repr

def Diagnostic.annotated (d : Diagnostic) : Annotation where
  level := annotationLevel d.severity
  place := d.location.map fun l => (l.path, l.position)
  text := "[" ++ d.tag ++ "] " ++ d.message

namespace Annotation

/-! ## Reading -/

/-- Reverses escapes: a per cent sign and two hexadecimal digits are one character. -/
def unescape : List Char → List Char
  | [] => []
  | '%' :: high :: low :: cs => Char.ofNat (Text.hexNumber [high, low]) :: unescape cs
  | c :: cs => c :: unescape cs

def readNumber (digits : List Char) : UInt32 := (Nat.ofDigitChars 10 digits 0).toUInt32

def readPlace? (cs : List Char) : Option (ProjectPath × Text.Position) := do
  let (path, rest) ← Text.cutAt? ",line=".toList cs
  let (line, col) ← Text.cutAt? ",col=".toList rest
  return (⟨unescape path⟩, ⟨readNumber line, readNumber col⟩)

def read? (s : String) : Option Annotation := do
  let command ← "::".toList.isPrefixOf? s.toList
  let (head, text) ← Text.cutAt? "::".toList command
  match Text.cutAt? " file=".toList head with
  | none => return ⟨String.ofList head, none, String.ofList (unescape text)⟩
  | some (level, place) =>
    return ⟨String.ofList level, some (← readPlace? place), String.ofList (unescape text)⟩

open Diagnostic (escapeInText escapeInPath annotationLevel annotationPlace)

/-! ## Escapes -/

section

variable {escape : Char → List Char} {c x : Char}

theorem escapeInText_of_notMem (h : c ∉ ['%', '\r', '\n']) : escapeInText c = [c] := by
  simp only [List.mem_cons, List.not_mem_nil, or_false, not_or] at h
  rw [escapeInText, if_neg h.1, if_neg h.2.1, if_neg h.2.2]

theorem escapeInPath_of_notMem (h : c ∉ [':', ',']) : escapeInPath c = escapeInText c := by
  simp only [List.mem_cons, List.not_mem_nil, or_false, not_or] at h
  rw [escapeInPath, if_neg h.1, if_neg h.2]

theorem unescape_cons (h : c ≠ '%') (cs : List Char) : unescape (c :: cs) = c :: unescape cs := by
  rw [unescape]
  rintro high low rest rfl
  exact absurd rfl h

theorem unescape_escapeInText (c : Char) (cs : List Char) :
    unescape (escapeInText c ++ cs) = c :: unescape cs := by
  by_cases h : c ∈ ['%', '\r', '\n']
  · simp only [List.mem_cons, List.not_mem_nil, or_false] at h
    rcases h with rfl | rfl | rfl <;> rfl
  · rw [escapeInText_of_notMem h]
    exact unescape_cons (fun hc => h (by simp [hc])) cs

theorem unescape_escapeInPath (c : Char) (cs : List Char) :
    unescape (escapeInPath c ++ cs) = c :: unescape cs := by
  by_cases h : c ∈ [':', ',']
  · simp only [List.mem_cons, List.not_mem_nil, or_false] at h
    rcases h with rfl | rfl <;> rfl
  · rw [escapeInPath_of_notMem h, unescape_escapeInText]

/-- **What is escaped character by character is read back.** -/
theorem unescape_flatMap (h : ∀ c cs, unescape (escape c ++ cs) = c :: unescape cs) :
    ∀ cs : List Char, unescape (cs.flatMap escape) = cs
  | [] => rfl
  | c :: cs => by rw [List.flatMap_cons, h, unescape_flatMap h cs]

theorem mem_escapeInText (h : x ∈ escapeInText c) :
    x ∈ "%250DA".toList ∨ (x = c ∧ c ∉ ['%', '\r', '\n']) := by
  by_cases hc : c ∈ ['%', '\r', '\n']
  · have hmarks : ∀ c ∈ ['%', '\r', '\n'], escapeInText c ⊆ "%250DA".toList := by
      simp [escapeInText]
    exact .inl (hmarks c hc h)
  · rw [escapeInText_of_notMem hc, List.mem_singleton] at h
    exact .inr ⟨h, hc⟩

theorem mem_escapeInPath (h : x ∈ escapeInPath c) :
    x ∈ "%253A0DC".toList ∨ (x = c ∧ c ∉ ['%', '\r', '\n', ':', ',']) := by
  by_cases hc : c ∈ [':', ',']
  · have hmarks : ∀ c ∈ [':', ','], escapeInPath c ⊆ "%253A0DC".toList := by
      simp [escapeInPath]
    exact .inl (hmarks c hc h)
  · rw [escapeInPath_of_notMem hc] at h
    rcases mem_escapeInText h with h | ⟨rfl, hmark⟩
    · have hpath : ∀ x ∈ "%250DA".toList, x ∈ "%253A0DC".toList := by simp
      exact .inl (hpath x h)
    · right
      exact ⟨rfl, by simp_all⟩

theorem notMem_flatMap (h : ∀ c, x ∉ escape c) (cs : List Char) : x ∉ cs.flatMap escape := by
  rw [List.mem_flatMap]
  rintro ⟨c, -, hc⟩
  exact h c hc

theorem notMem_escapedText (hx : x ∈ ['\r', '\n']) (cs : List Char) :
    x ∉ cs.flatMap escapeInText := by
  refine notMem_flatMap (fun c hc => ?_) cs
  rcases mem_escapeInText hc with h | ⟨rfl, h⟩
  · have hdisjoint : ∀ x ∈ ['\r', '\n'], x ∉ "%250DA".toList := by simp
    exact hdisjoint x hx h
  · exact h (List.mem_cons_of_mem _ hx)

theorem notMem_escapedPath (hx : x ∈ ['\r', '\n', ':', ',']) (cs : List Char) :
    x ∉ cs.flatMap escapeInPath := by
  refine notMem_flatMap (fun c hc => ?_) cs
  rcases mem_escapeInPath hc with h | ⟨rfl, h⟩
  · have hdisjoint : ∀ x ∈ ['\r', '\n', ':', ','], x ∉ "%253A0DC".toList := by simp
    exact hdisjoint x hx h
  · exact h (List.mem_cons_of_mem _ hx)

end

/-! ## Escaping in passes

A text can be escaped in passes over the whole of it, one character a pass.  The per cent sign has
to be the first, since the passes that follow write some. -/

/-- Writes a word in the place of a character. -/
def replaceEach (c : Char) (word : List Char) (cs : List Char) : List Char :=
  cs.flatMap fun x => if x = c then word else [x]

theorem escapedText_eq_passes (cs : List Char) : cs.flatMap escapeInText =
    replaceEach '\n' "%0A".toList (replaceEach '\r' "%0D".toList
      (replaceEach '%' "%25".toList cs)) := by
  unfold replaceEach
  rw [List.flatMap_assoc, List.flatMap_assoc]
  congr 1
  funext c
  by_cases h : c ∈ ['%', '\r', '\n']
  · simp only [List.mem_cons, List.not_mem_nil, or_false] at h
    rcases h with rfl | rfl | rfl <;> rfl
  · rw [escapeInText_of_notMem h]
    simp only [List.mem_cons, List.not_mem_nil, or_false, not_or] at h
    simp [h]

/-- With the per cent sign last, its pass would take the escapes of the others for text. -/
example : replaceEach '%' "%25".toList (replaceEach '\n' "%0A".toList ['\n']) = "%250A".toList := by
  decide

/-- A path is escaped as a text, and then in two more passes. -/
theorem escapedPath_eq_passes (cs : List Char) : cs.flatMap escapeInPath =
    replaceEach ',' "%2C".toList (replaceEach ':' "%3A".toList (cs.flatMap escapeInText)) := by
  unfold replaceEach
  rw [List.flatMap_assoc, List.flatMap_assoc]
  congr 1
  funext c
  by_cases hmark : c ∈ [':', ',']
  · simp only [List.mem_cons, List.not_mem_nil, or_false] at hmark
    rcases hmark with rfl | rfl <;> rfl
  · rw [escapeInPath_of_notMem hmark]
    by_cases h : c ∈ ['%', '\r', '\n']
    · simp only [List.mem_cons, List.not_mem_nil, or_false] at h
      rcases h with rfl | rfl | rfl <;> rfl
    · rw [escapeInText_of_notMem h]
      simp only [List.mem_cons, List.not_mem_nil, or_false, not_or] at hmark
      simp [hmark]

/-! ## Lines -/

def placeChars (place : ProjectPath × Text.Position) : List Char :=
  place.1.chars.flatMap escapeInPath ++ (",line=".toList ++
    ((toString place.2.line.toNat).toList ++ (",col=".toList ++
      (toString place.2.col.toNat).toList)))

def head (a : Annotation) : List Char :=
  a.level.toList ++ (a.place.map fun place => " file=".toList ++ placeChars place).getD []

def chars (a : Annotation) : List Char :=
  "::".toList ++ (a.head ++ ("::".toList ++ a.text.toList.flatMap escapeInText))

/-- The name of a level holds no mark and no line end. -/
def IsLevel (level : String) : Prop := ∀ x ∈ ['\r', '\n', ':', ' '], x ∉ level.toList

theorem isLevel_annotationLevel (severity : Severity) : IsLevel (annotationLevel severity) := by
  unfold IsLevel
  cases severity <;> simp [annotationLevel]

/-- **Diagnostics are written as what their annotations are to say.** -/
theorem toList_eq_chars (d : Diagnostic) : d.annotation.toList = d.annotated.chars := by
  have hline : (toString ",line=") = ",line=" := rfl
  have hcol : (toString ",col=") = ",col=" := rfl
  have hplace : annotationPlace = fun l : Location =>
      " file=".toList ++ placeChars (l.path, l.position) := by
    funext l
    -- the words in the definition compute, which makes its equation slow to come by
    delta annotationPlace
    simp only [placeChars, hline, hcol, String.toList_append, List.append_assoc]
  delta Diagnostic.annotation
  simp only [chars, head, Diagnostic.annotated, String.toList_ofList, List.append_assoc,
    Option.map_map, Function.comp_def, hplace]

section

variable {a : Annotation} {x : Char}

theorem notMem_placeChars (hx : x ∈ ['\r', '\n', ':']) (place : ProjectPath × Text.Position) :
    x ∉ placeChars place := by
  have hwords : ∀ x ∈ ['\r', '\n', ':'], x ∈ ['\r', '\n', ':', ','] ∧
      x ∉ ",line=".toList ∧ x ∉ ",col=".toList ∧ x.isDigit = false := by
    simp [Char.isDigit]
  obtain ⟨hmark, hline, hcol, hdigit⟩ := hwords x hx
  simp only [placeChars, List.mem_append, not_or]
  exact ⟨notMem_escapedPath hmark _, hline, Text.notMem_digits hdigit _, hcol,
    Text.notMem_digits hdigit _⟩

theorem notMem_head (ha : IsLevel a.level) (hx : x ∈ ['\r', '\n', ':']) : x ∉ a.head := by
  have hwords : ∀ x ∈ ['\r', '\n', ':'], x ∈ ['\r', '\n', ':', ' '] ∧ x ∉ " file=".toList := by
    simp
  obtain ⟨hlevel, hfile⟩ := hwords x hx
  rw [head, List.mem_append, not_or]
  refine ⟨ha x hlevel, ?_⟩
  cases a.place with
  | none => exact List.not_mem_nil
  | some place =>
    rw [Option.map_some, Option.getD_some, List.mem_append, not_or]
    exact ⟨hfile, notMem_placeChars hx place⟩

theorem notMem_chars (ha : IsLevel a.level) (hx : x ∈ ['\r', '\n']) : x ∉ a.chars := by
  have hwords : ∀ x ∈ ['\r', '\n'], x ∈ ['\r', '\n', ':'] ∧ x ∉ "::".toList := by simp
  obtain ⟨hhead, hcolons⟩ := hwords x hx
  simp only [chars, List.mem_append, not_or]
  exact ⟨hcolons, notMem_head ha hhead, hcolons, notMem_escapedText hx _⟩

theorem readNumber_digits (n : UInt32) : readNumber (toString n.toNat).toList = n := by
  rw [readNumber, Text.ofDigitChars_digits]
  exact UInt32.ofNat_toNat

theorem readPlace?_placeChars (place : ProjectPath × Text.Position) :
    readPlace? (placeChars place) = some place := by
  have hline := Text.cutAt?_append ",line=".toList rfl
    (notMem_escapedPath (x := ',') (by decide) place.1.chars)
  have hcol := Text.cutAt?_append ",col=".toList rfl
    (Text.notMem_digits (c := ',') (by decide) place.2.line.toNat)
  simp only [readPlace?, placeChars, hline, hcol, Option.bind_eq_bind, Option.bind_some,
    unescape_flatMap unescape_escapeInPath, readNumber_digits]
  rfl

theorem cutAt?_head (ha : IsLevel a.level) : Text.cutAt? " file=".toList a.head =
    a.place.map fun place => (a.level.toList, placeChars place) := by
  have hblank := ha ' ' (by decide)
  rw [head]
  cases a.place with
  | none =>
    rw [Option.map_none, Option.getD_none, List.append_nil]
    exact Text.cutAt?_eq_none _ rfl hblank
  | some place =>
    rw [Option.map_some, Option.getD_some]
    exact Text.cutAt?_append _ rfl hblank _

/-- **What a line says is read back.** -/
theorem read?_of_toList {s : String} (ha : IsLevel a.level) (h : s.toList = a.chars) :
    read? s = some a := by
  have hcommand := List.isPrefixOf?_eq_some_iff_append_eq.2 h.symm
  have hhead := Text.cutAt?_append "::".toList rfl (notMem_head (x := ':') ha (by decide))
  obtain ⟨level, place, text⟩ := a
  simp only [read?, hcommand, hhead, cutAt?_head ha, Option.bind_eq_bind, Option.bind_some,
    unescape_flatMap unescape_escapeInText, String.ofList_toList]
  cases place with
  | none =>
    simp only [Option.map_none, head, Option.getD_none, List.append_nil, String.ofList_toList]
    rfl
  | some place =>
    simp only [Option.map_some, readPlace?_placeChars, Option.bind_some, String.ofList_toList]
    rfl

end

end Annotation

namespace Diagnostic

open Annotation

theorem read?_annotation (d : Diagnostic) : read? d.annotation = some d.annotated :=
  read?_of_toList (isLevel_annotationLevel d.severity) (toList_eq_chars d)

/-- **Annotations are read back, and nothing in them is taken for a mark.** Whatever the paths, the
names of rules and the messages hold:
- from the annotations of some diagnostics the reader gets, one by one and in their order, the
  levels, the places, and the names in brackets with the messages;
- no annotation has a line end;
- two diagnostics have one annotation exactly when these three are the same. -/
theorem annotations_read_back (ds : List Diagnostic) :
    (renderAnnotations ds).map read? = ds.map (fun d => some d.annotated) ∧
    (∀ a ∈ renderAnnotations ds, '\r' ∉ a.toList ∧ '\n' ∉ a.toList) ∧
    ∀ d d' : Diagnostic, d.annotation = d'.annotation ↔ d.annotated = d'.annotated := by
  refine ⟨?_, ?_, fun d d' => ⟨fun h => ?_, fun h => ?_⟩⟩
  · rw [renderAnnotations, List.map_map]
    exact List.map_congr_left fun d _ => read?_annotation d
  · intro a ha
    obtain ⟨d, -, rfl⟩ := List.mem_map.1 ha
    have hlevel := isLevel_annotationLevel d.severity
    rw [toList_eq_chars]
    exact ⟨notMem_chars hlevel (by decide), notMem_chars hlevel (by decide)⟩
  · apply Option.some.inj
    rw [← read?_annotation, ← read?_annotation, h]
  · apply String.toList_inj.1
    rw [toList_eq_chars, toList_eq_chars, h]

/-! A path that goes on as an annotation would, and a message with an escape, a line end and a
command of its own. -/

def posing : Diagnostic where
  severity := .suggestion
  code := 21225
  message := "100%0A of it\r\n::error file=b.ts,line=1,col=1::[TS1] no"
  location := some ⟨⟨"a.ts,line=7,col=7::b%2C.ts".toList⟩, 0, 0, ⟨12, 3⟩⟩
  rule := some "equals-nan] ::"

theorem annotations_read_back_posing :
    posing.annotation ∈ renderAnnotations [posing, posing] ∧ '\n' ∉ posing.annotation.toList ∧
    (renderAnnotations [posing, posing]).map read? =
      [some posing.annotated, some posing.annotated] := by
  obtain ⟨hread, hline, -⟩ := annotations_read_back [posing, posing]
  have hmem : posing.annotation ∈ renderAnnotations [posing, posing] := List.mem_cons_self
  exact ⟨hmem, (hline _ hmem).2, hread⟩

end Diagnostic

end Conformance
