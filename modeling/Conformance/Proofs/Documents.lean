import Conformance.Project.ConfigFile
import Conformance.Proofs.Gathering
import Conformance.Proofs.Json.Fitting
import Conformance.Tree.Document
/-!
# Documents that were read can be written and read again

A document may be written in many ways: as an object or as a list of its fields, with fields left
out, with kinds that nobody knows.  What it says is the value that is read from it, and that value
has one way of being written.  Writing it and reading it again gives the same value, so nothing is
lost after the first reading: every node and type at every depth, messages, outputs and flags.

The value is taken to data and back on the way.  Data that fit the schema are what the value makes
of them again (`Node.toDatum_ofDatum` and the others), and what was read fits (`Json.Fitting`).
-/
namespace Conformance

open Json (Datum Fits Layout Shape settleName)

/-! ## Data of a field -/

section

variable {ρ : Type} {schema : ρ → Layout ρ} {f : Json.Field ρ} {d : Datum} {room : Nat}

theorem takes_required {P : Prop} (hnull : f.nullable = false) (hsparse : f.sparse = false)
    (h : f.Waives d ∨ P) : P := by
  rcases h with (⟨hnull', -⟩ | ⟨hout, -⟩) | h
  · rw [hnull] at hnull'
    cases hnull'
  · unfold Json.Field.leavesOut at hout
    rw [hsparse] at hout
    split at hout <;> cases hout
  · exact h

theorem takes_nullable {P : Prop} (habsent : f.absent = some .null) (h : f.Waives d ∨ P) :
    d = .null ∨ P := by
  rcases h with (⟨-, rfl⟩ | ⟨-, habsent'⟩) | h
  · exact .inl rfl
  · rw [habsent] at habsent'
    cases habsent'
    exact .inl rfl
  · exact .inr h

theorem takes_list {item : Shape ρ} (hnull : f.nullable = false)
    (habsent : f.absent = some (.list [])) (h : f.Waives d ∨ Fits schema room (.list item) d) :
    ∃ ds, d = .list ds ∧ ∀ x ∈ ds, Fits schema (room - 1) item x := by
  rcases h with (⟨hnull', -⟩ | ⟨-, habsent'⟩) | h
  · rw [hnull] at hnull'
    cases hnull'
  · rw [habsent] at habsent'
    cases habsent'
    exact ⟨[], rfl, fun x hx => by cases hx⟩
  · cases room with
    | zero => exact h.elim
    | succ room => exact h

theorem fits_text : Fits schema room .text d ↔ ∃ t, d = .text t := by rw [Fits]

theorem fits_flag : Fits schema room .flag d ↔ ∃ b, d = .flag b := by rw [Fits]

theorem fits_word : Fits schema room .word d ↔ ∃ n, d = .word n := by rw [Fits]

theorem fits_choice {names : List String} {other : Option String} :
    Fits schema room (.choice names other) d ↔
      ∃ name, d = .choice name ∧ settleName names other name = some name := by rw [Fits]

/-! ## Values kept

What is read from a datum and written again is the datum. -/

theorem text_asText (h : Fits schema room .text d) : Datum.text d.asText = d := by
  obtain ⟨t, rfl⟩ := fits_text.1 h
  rfl

theorem flag_asFlag (h : Fits schema room .flag d) : Datum.flag d.asFlag = d := by
  obtain ⟨b, rfl⟩ := fits_flag.1 h
  rfl

theorem word_asWord (h : Fits schema room .word d) : Datum.word d.asWord = d := by
  obtain ⟨n, rfl⟩ := fits_word.1 h
  rfl

theorem choice_name_find? {κ : Type} {name : κ → String} {all : List κ} {other : Option String}
    (fallback : κ) (hother : ∀ n, other = some n → n ∈ all.map name)
    (h : Fits schema room (.choice (all.map name) other) d) :
    Datum.choice (name ((all.find? (name · == d.asText)).getD fallback)) = d := by
  obtain ⟨n, rfl, hsettle⟩ := fits_choice.1 h
  have hmem : n ∈ all.map name := by
    unfold settleName at hsettle
    split at hsettle
    · assumption
    · exact hother n hsettle
  obtain ⟨k, hk, rfl⟩ := List.mem_map.1 hmem
  cases hfind : all.find? (name · == name k) with
  | none => simpa using List.find?_eq_none.1 hfind k hk
  | some k' =>
    have hname := List.find?_some hfind
    simpa [Datum.asText, hfind] using hname

theorem ofOption_asOption {α : Type} {write : α → Datum} {read : Datum → α} {shape : Shape ρ}
    (habsent : f.absent = some .null) (h : f.Waives d ∨ Fits schema room shape d)
    (hkeeps : Fits schema room shape d → write (read d) = d) :
    Datum.ofOption write (d.asOption read) = d := by
  rcases takes_nullable habsent h with rfl | hfits
  · rfl
  · have hd := hkeeps hfits
    cases d with
    | null => exact absurd rfl hfits.ne_null
    | _ => exact hd

theorem map_write_read {α : Type} {write : α → Datum} {read : Datum → α} {ds : List Datum}
    (h : ∀ x ∈ ds, write (read x) = x) : (ds.map read).map write = ds := by
  have hcomp : ∀ x ∈ ds, (write ∘ read) x = x := h
  rw [List.map_map, List.map_congr_left hcomp, List.map_id']

theorem textList_asList (h : Fits schema room (.list .text) d) :
    textList (d.asList Datum.asText) = d := by
  cases room with
  | zero => exact h.elim
  | succ room =>
    obtain ⟨ds, rfl, htext⟩ := h
    rw [textList, Datum.asList, map_write_read fun x hx => text_asText (htext x hx)]

end

/-! ## Typed trees -/

namespace TypeDeclaration

theorem toDatum_ofDatum {room : Nat} {d : Datum}
    (h : Fits treeSchema room (.record .declaration) d) : (ofDatum d).toDatum = d := by
  cases room with
  | zero => exact h.elim
  | succ room =>
    obtain ⟨_, rfl, hfields⟩ := h
    let .cons hfile (.cons hname .nil) := hfields
    obtain ⟨file, rfl⟩ := fits_text.1 (takes_required rfl rfl hfile)
    obtain ⟨name, rfl⟩ := fits_text.1 (takes_required rfl rfl hname)
    rfl

end TypeDeclaration

namespace TypeInfo

theorem ofData_eq : ∀ ds : List Datum, ofData ds = ds.map ofDatum
  | [] => by rw [ofData, List.map_nil]
  | d :: ds => by rw [ofData, ofData_eq ds, List.map_cons]

theorem toData_eq : ∀ ts : List TypeInfo, toData ts = ts.map toDatum
  | [] => by rw [toData, List.map_nil]
  | t :: ts => by rw [toData, toData_eq ts, List.map_cons]

theorem toDatum_ofDatum : ∀ {room : Nat} {d : Datum},
    Fits treeSchema room (.record .type) d → (ofDatum d).toDatum = d
  | 0, _, h => h.elim
  | room + 1, _, h => by
    obtain ⟨_, rfl, hfields⟩ := h
    let .cons hname (.cons hkind (.cons hdeclarations (.cons hmembers .nil))) := hfields
    obtain ⟨name, rfl⟩ := fits_text.1 (takes_required rfl rfl hname)
    have hkind := choice_name_find? TypeKind.object (by simp [TypeKind.all])
      (takes_required rfl rfl hkind)
    obtain ⟨declarations, rfl, hdeclaration⟩ := takes_list rfl rfl hdeclarations
    obtain ⟨members, rfl, hmember⟩ := takes_list rfl rfl hmembers
    -- a member fits with one less room than the type, and the recursion is on that
    have hkeeps : ∀ x ∈ members, (ofDatum x).toDatum = x :=
      fun x hx => toDatum_ofDatum (hmember x hx)
    rw [ofDatum, toDatum, ofData_eq, toData_eq, map_write_read hkeeps,
      Datum.asList, map_write_read fun x hx => TypeDeclaration.toDatum_ofDatum (hdeclaration x hx)]
    exact congrArg (fun k => Datum.record [_, k, _, _]) hkind
termination_by room => room

end TypeInfo

namespace Node

theorem ofData_eq : ∀ ds : List Datum, ofData ds = ds.map ofDatum
  | [] => by rw [ofData, List.map_nil]
  | d :: ds => by rw [ofData, ofData_eq ds, List.map_cons]

theorem toData_eq : ∀ ns : List Node, toData ns = ns.map toDatum
  | [] => by rw [toData, List.map_nil]
  | n :: ns => by rw [toData, toData_eq ns, List.map_cons]

theorem toDatum_ofDatum : ∀ {room : Nat} {d : Datum},
    Fits treeSchema room (.record .node) d → (ofDatum d).toDatum = d
  | 0, _, h => h.elim
  | room + 1, _, h => by
    obtain ⟨_, rfl, hfields⟩ := h
    let .cons hkind (.cons hpos (.cons hstop (.cons htext (.cons hoperator
      (.cons htype (.cons hcontextual (.cons hchildren .nil))))))) := hfields
    have hkind := choice_name_find? NodeKind.other (by simp [NodeKind.all])
      (takes_required rfl rfl hkind)
    obtain ⟨pos, rfl⟩ := fits_word.1 (takes_required rfl rfl hpos)
    obtain ⟨stop, rfl⟩ := fits_word.1 (takes_required rfl rfl hstop)
    obtain ⟨children, rfl, hchild⟩ := takes_list rfl rfl hchildren
    have hkeeps : ∀ x ∈ children, (ofDatum x).toDatum = x :=
      fun x hx => toDatum_ofDatum (hchild x hx)
    rw [ofDatum, toDatum, ofData_eq, toData_eq, map_write_read hkeeps,
      ofOption_asOption rfl htext text_asText, ofOption_asOption rfl hoperator text_asText,
      ofOption_asOption rfl htype TypeInfo.toDatum_ofDatum,
      ofOption_asOption rfl hcontextual TypeInfo.toDatum_ofDatum]
    exact congrArg (fun k => Datum.record [k, _, _, _, _, _, _, _]) hkind
termination_by room => room

end Node

namespace CheckerMessage

theorem toDatum_ofDatum {room : Nat} {d : Datum} (h : Fits treeSchema room (.record .message) d) :
    (ofDatum d).toDatum = d := by
  cases room with
  | zero => exact h.elim
  | succ room =>
    obtain ⟨_, rfl, hfields⟩ := h
    let .cons hseverity (.cons hcode (.cons hmessage (.cons hstart
      (.cons hlength .nil)))) := hfields
    have hseverity := choice_name_find? Severity.error (fun _ hn => by cases hn)
      (takes_required rfl rfl hseverity)
    obtain ⟨code, rfl⟩ := fits_word.1 (takes_required rfl rfl hcode)
    obtain ⟨message, rfl⟩ := fits_text.1 (takes_required rfl rfl hmessage)
    rw [ofDatum, toDatum, ofOption_asOption rfl hstart word_asWord,
      ofOption_asOption rfl hlength word_asWord]
    exact congrArg (fun k => Datum.record [k, _, _, _, _]) hseverity

end CheckerMessage

namespace SourceFile

theorem toDatum_ofDatum {room : Nat} {d : Datum} (h : Fits treeSchema room (.record .file) d) :
    (ofDatum d).toDatum = d := by
  cases room with
  | zero => exact h.elim
  | succ room =>
    obtain ⟨_, rfl, hfields⟩ := h
    let .cons hname (.cons hflag (.cons htext (.cons hmessages (.cons houtput
      (.cons hstatements .nil))))) := hfields
    obtain ⟨name, rfl⟩ := fits_text.1 (takes_required rfl rfl hname)
    obtain ⟨flag, rfl⟩ := fits_flag.1 (takes_required rfl rfl hflag)
    obtain ⟨text, rfl⟩ := fits_text.1 (takes_required rfl rfl htext)
    obtain ⟨messages, rfl, hmessage⟩ := takes_list rfl rfl hmessages
    obtain ⟨statements, rfl, hstatement⟩ := takes_list rfl rfl hstatements
    have hkeeps : ∀ x ∈ statements, (Node.ofDatum x).toDatum = x :=
      fun x hx => Node.toDatum_ofDatum (hstatement x hx)
    rw [ofDatum, toDatum, Node.ofData_eq, Node.toData_eq, map_write_read hkeeps,
      ofOption_asOption rfl houtput text_asText,
      Datum.asList, map_write_read fun x hx => CheckerMessage.toDatum_ofDatum (hmessage x hx)]
    rfl

end SourceFile

/-! ## Project files -/

namespace PluginEntry

theorem toDatum_ofDatum {room : Nat} {d : Datum} (h : Fits configSchema room (.record .plugin) d) :
    (ofDatum d).toDatum = d := by
  cases room with
  | zero => exact h.elim
  | succ room =>
    obtain ⟨_, rfl, hfields⟩ := h
    let .cons hname (.cons hexemption (.cons hdisabled .nil)) := hfields
    obtain ⟨name, rfl⟩ := fits_text.1 (takes_required rfl rfl hname)
    obtain ⟨disabled, rfl, hrule⟩ := takes_list rfl rfl hdisabled
    rw [ofDatum, toDatum, ofOption_asOption rfl hexemption text_asText, Datum.asList,
      map_write_read fun x hx => text_asText (hrule x hx)]
    rfl

end PluginEntry

namespace CompilerOptions

theorem toDatum_ofDatum {room : Nat} {d : Datum}
    (h : Fits configSchema room (.record .options) d) : (ofDatum d).toDatum = d := by
  cases room with
  | zero => exact h.elim
  | succ room =>
    obtain ⟨_, rfl, hfields⟩ := h
    let .cons hnoEmit (.cons hnoEmitOnError (.cons houtDir (.cons hrootDir (.cons hinfo
      (.cons hplugins .nil))))) := hfields
    obtain ⟨plugins, rfl, hplugin⟩ := takes_list rfl rfl hplugins
    rw [ofDatum, toDatum, ofOption_asOption rfl hnoEmit flag_asFlag,
      ofOption_asOption rfl hnoEmitOnError flag_asFlag, ofOption_asOption rfl houtDir text_asText,
      ofOption_asOption rfl hrootDir text_asText, ofOption_asOption rfl hinfo text_asText,
      Datum.asList, map_write_read fun x hx => PluginEntry.toDatum_ofDatum (hplugin x hx)]

end CompilerOptions

theorem record_referenceOfDatum {room : Nat} {d : Datum}
    (h : Fits configSchema room (.record .reference) d) :
    Datum.record [.text (referenceOfDatum d)] = d := by
  cases room with
  | zero => exact h.elim
  | succ room =>
    obtain ⟨_, rfl, hfields⟩ := h
    let .cons hpath .nil := hfields
    obtain ⟨path, rfl⟩ := fits_text.1 (takes_required rfl rfl hpath)
    rfl

namespace ConfigFile

theorem toDatum_ofDatum {room : Nat} {d : Datum} (h : Fits configSchema room (.record .file) d) :
    (ofDatum d).toDatum = d := by
  cases room with
  | zero => exact h.elim
  | succ room =>
    obtain ⟨_, rfl, hfields⟩ := h
    let .cons hoptions (.cons hfiles (.cons hincluded (.cons hexcluded
      (.cons hreferences .nil)))) := hfields
    obtain ⟨references, rfl, hreference⟩ := takes_list rfl rfl hreferences
    have hkeeps : (references.map referenceOfDatum).map (fun path => Datum.record [.text path]) =
        references := map_write_read fun x hx => record_referenceOfDatum (hreference x hx)
    rw [ofDatum, toDatum, CompilerOptions.toDatum_ofDatum (takes_required rfl rfl hoptions),
      ofOption_asOption rfl hfiles textList_asList,
      ofOption_asOption rfl hincluded textList_asList,
      ofOption_asOption rfl hexcluded textList_asList, Datum.asList, hkeeps]

end ConfigFile

/-! ## The schemas

Only the record of a whole document has defaults that are written out, the statements of a file and
the options of a project; all other records nest. -/

theorem isSound_treeSchema (r : TreeRecord) : (treeSchema r).IsSound := by
  cases r <;> exact ⟨by decide, by simp [treeSchema]⟩

theorem isSound_configSchema (r : ConfigRecord) : (configSchema r).IsSound := by
  cases r <;> exact ⟨by decide, by simp [configSchema, optionalField, optionalList]⟩

theorem nests_treeSchema : Json.Nests treeSchema (· ≠ .file) := by
  refine ⟨fun r hr => ?_, fun r hr room => ?_⟩
  · cases r with
    | file => exact absurd rfl hr
    | _ => simp [treeSchema, Shape.Names]
  · cases r with
    | file => exact absurd rfl hr
    | message =>
      simp [treeSchema, Layout.DefaultsFit, Json.Field.Waives, Json.Field.leavesOut, fits_choice,
        settleName, Severity.all]
    | _ =>
      simp [treeSchema, Layout.DefaultsFit, Json.Field.Waives, Json.Field.leavesOut, fits_choice,
        settleName]

theorem nests_configSchema : Json.Nests configSchema (· ≠ .file) := by
  refine ⟨fun r hr => ?_, fun r hr room => ?_⟩
  · cases r with
    | file => exact absurd rfl hr
    | _ => simp [configSchema, optionalField, optionalList, Shape.Names]
  · cases r with
    | file => exact absurd rfl hr
    | _ =>
      simp [configSchema, optionalField, optionalList, Layout.DefaultsFit, Json.Field.Waives,
        Json.Field.leavesOut]

theorem fits_treeFile {text : List Char} {d : Datum}
    (h : Json.readRecord treeSchema .file text = .ok d) :
    Fits treeSchema Json.depthLimit (.record .file) d := by
  refine Json.fits_of_readRecord nests_treeSchema isSound_treeSchema ?_ ?_ h
  · simp [treeSchema, Shape.Names]
  · simp [treeSchema, Layout.DefaultsFit, Json.Field.Waives, Json.Field.leavesOut, Json.depthLimit,
      Fits]

theorem fits_configFile {text : List Char} {d : Datum}
    (h : Json.readRecord configSchema .file text = .ok d) :
    Fits configSchema Json.depthLimit (.record .file) d := by
  refine Json.fits_of_readRecord nests_configSchema isSound_configSchema ?_ ?_ h
  · simp [configSchema, optionalField, optionalList, Shape.Names]
  · simp [configSchema, optionalField, optionalList, Layout.DefaultsFit, Json.Field.Waives,
      Json.Field.leavesOut, Json.depthLimit, Fits]

/-! ## Reading again -/

/-- A value that was read by a schema is read again from what it is written as, if its data fit and
are kept. -/
theorem read_of_written {ρ α : Type} {schema : ρ → Layout ρ} {r : ρ} {ofDatum : Datum → α}
    {toDatum : α → Datum} {text : List Char} {a : α} (hschema : ∀ r, (schema r).IsSound)
    (hfits : ∀ d, Json.readRecord schema r text = .ok d →
      Fits schema Json.depthLimit (.record r) d)
    (hkept : ∀ d, Fits schema Json.depthLimit (.record r) d → toDatum (ofDatum d) = d)
    (h : (Json.readRecord schema r text).map ofDatum = .ok a) :
    let json := Json.write schema (.record r) (toDatum a)
    (Json.readRecord schema r json.compact).map ofDatum = .ok a ∧
      (Json.readRecord schema r json.pretty).map ofDatum = .ok a := by
  cases hread : Json.readRecord schema r text with
  | error e =>
    rw [hread] at h
    cases h
  | ok d =>
    rw [hread] at h
    cases h
    have hd := hfits d hread
    dsimp only
    rw [hkept d hd, Json.readRecord_compact hschema hd, Json.readRecord_pretty hschema hd]
    exact ⟨rfl, rfl⟩

/-- **A document that was read can be written and read again**, without loss: the value of a typed
tree and that of a project file are the same when they are read from their own text, whether that
is written on one line or on many. -/
theorem documents_read_back :
    (∀ (text : String) (f : SourceFile), SourceFile.parse text = .ok f →
      SourceFile.parse f.render = .ok f ∧
        SourceFile.parse (String.ofList f.toJson.pretty) = .ok f) ∧
    (∀ (text : String) (c : ConfigFile), ConfigFile.parse text = .ok c →
      ConfigFile.parse c.render = .ok c ∧
        ConfigFile.parse (String.ofList c.toJson.pretty) = .ok c) := by
  refine ⟨fun text f h => ?_, fun text c h => ?_⟩
  · unfold SourceFile.parse SourceFile.render SourceFile.toJson
    rw [String.toList_ofList, String.toList_ofList]
    exact read_of_written isSound_treeSchema (fun d => fits_treeFile)
      (fun d => SourceFile.toDatum_ofDatum) h
  · unfold ConfigFile.parse ConfigFile.render ConfigFile.toJson
    rw [String.toList_ofList, String.toList_ofList]
    exact read_of_written isSound_configSchema (fun d => fits_configFile)
      (fun d => ConfigFile.toDatum_ofDatum) h

/-- A tree with records as lists, a kind as an object, a kind that nobody knows, fields out of order
and one that is not known. -/
def wildTreeText : String :=
  "\x7b\"statements\":[[\"Wild\",0,3,null,null," ++
    "\x7b\"kind\":\x7b\"union\":null\x7d,\"name\":\"T\",\"members\":[[\"U\"]]\x7d]," ++
    "[\"Block\",4,5]],\"size\":[],\"fileName\":\"a\"\x7d"

/-- A project file with `null` for a field, a reference as a list, and an option that is not
known. -/
def wildConfigText : String :=
  "\x7b\"files\":null,\"references\":[[\"../b\"],\x7b\"path\":\"c\"\x7d]," ++
    "\"compilerOptions\":\x7b\"strict\":true,\"plugins\":[[\"p\"]]\x7d\x7d"

theorem documents_read_back_wild :
    (∃ f, SourceFile.parse wildTreeText = .ok f ∧ f.statements.length = 2 ∧
      SourceFile.parse f.render = .ok f) ∧
    (∃ c, ConfigFile.parse wildConfigText = .ok c ∧ c.references = ["../b", "c"] ∧
      ConfigFile.parse c.render = .ok c) := by
  have htree : ((SourceFile.parse wildTreeText).toOption.map (·.statements.length)) = some 2 := by
    decide +kernel
  have hconfig : ((ConfigFile.parse wildConfigText).toOption.map (·.references)) =
      some ["../b", "c"] := by
    decide +kernel
  obtain ⟨f, hf, htree⟩ := exists_eq_ok_of_map htree
  obtain ⟨c, hc, hconfig⟩ := exists_eq_ok_of_map hconfig
  exact ⟨⟨f, hf, htree, (documents_read_back.1 _ f hf).1⟩,
    ⟨c, hc, hconfig, (documents_read_back.2 _ c hc).1⟩⟩

end Conformance
