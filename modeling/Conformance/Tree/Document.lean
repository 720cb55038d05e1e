import Conformance.Json.Schema
import Conformance.Json.Printer
import Conformance.Tree.SourceFile
/-!
# Typed trees as documents

The type checker hands over each file as a JSON document.  This module gives the
schema of these documents and takes the data apart into types, files and nodes,
and back: `ofDatum` and `toDatum` for each of them.

The schema leaves room for documents by hand: most fields have defaults, and kinds
that nobody asks for are accepted under any name.
-/
namespace Conformance

inductive TreeRecord where
  | declaration
  | type
  | node
  | message
  | file
  deriving DecidableEq, Repr

open Json (Shape Layout Datum)

def treeSchema : TreeRecord → Layout TreeRecord
  | .declaration =>
    { name := "TypeDeclaration"
      fields := [
        { key := "file", shape := .text },
        { key := "qualifiedName", shape := .text }] }
  | .type =>
    { name := "TypeInfo"
      fields := [
        { key := "name", shape := .text },
        { key := "kind", shape := .choice (TypeKind.all.map (·.name)) (some TypeKind.object.name),
          absent := some (.choice TypeKind.object.name) },
        { key := "declarations", shape := .list (.record .declaration),
          absent := some (.list []), sparse := true },
        { key := "members", shape := .list (.record .type),
          absent := some (.list []), sparse := true }] }
  | .node =>
    { name := "Node"
      fields := [
        { key := "kind", shape := .choice (NodeKind.all.map (·.name)) (some NodeKind.other.name) },
        { key := "pos", shape := .word },
        { key := "end", shape := .word },
        { key := "text", shape := .text, nullable := true, absent := some .null, sparse := true },
        { key := "operator", shape := .text, nullable := true, absent := some .null,
          sparse := true },
        { key := "type", shape := .record .type, nullable := true, absent := some .null,
          sparse := true },
        { key := "contextualType", shape := .record .type, nullable := true,
          absent := some .null, sparse := true },
        { key := "children", shape := .list (.record .node), absent := some (.list []),
          sparse := true }] }
  | .message =>
    { name := "FileDiagnostic"
      fields := [
        { key := "category", shape := .choice (Severity.all.map (·.name)) none,
          absent := some (.choice Severity.error.name) },
        { key := "code", shape := .word },
        { key := "message", shape := .text },
        { key := "start", shape := .word, nullable := true, absent := some .null },
        { key := "length", shape := .word, nullable := true, absent := some .null }] }
  | .file =>
    { name := "SourceFile"
      fields := [
        { key := "fileName", shape := .text },
        { key := "isDeclarationFile", shape := .flag, absent := some (.flag false) },
        { key := "text", shape := .text, absent := some (.text "") },
        { key := "diagnostics", shape := .list (.record .message), absent := some (.list []),
          sparse := true },
        { key := "output", shape := .text, nullable := true, absent := some .null,
          sparse := true },
        { key := "statements", shape := .list (.record .node), absent := some (.list []) }] }

/-! ## Taking data apart

The schema fixes the form of the data, so each of these functions is written for
the data of its record; any other datum stands for an empty value. -/

open Json.Datum (asText asFlag asWord asOption asList)

def TypeDeclaration.ofDatum : Datum → TypeDeclaration
  | .record [file, qualifiedName] => ⟨file.asText, qualifiedName.asText⟩
  | _ => default

def TypeDeclaration.toDatum (d : TypeDeclaration) : Datum :=
  .record [.text d.file, .text d.qualifiedName]

mutual

def TypeInfo.ofDatum : Datum → TypeInfo
  | .record [name, kind, declarations, .list members] =>
    ⟨name.asText, .ofName kind.asText, declarations.asList TypeDeclaration.ofDatum,
      TypeInfo.ofData members⟩
  | _ => default

def TypeInfo.ofData : List Datum → List TypeInfo
  | [] => []
  | d :: ds => TypeInfo.ofDatum d :: TypeInfo.ofData ds

end

mutual

def TypeInfo.toDatum : TypeInfo → Datum
  | ⟨name, kind, declarations, members⟩ =>
    .record [.text name, .choice kind.name, .list (declarations.map TypeDeclaration.toDatum),
      .list (TypeInfo.toData members)]

def TypeInfo.toData : List TypeInfo → List Datum
  | [] => []
  | t :: ts => TypeInfo.toDatum t :: TypeInfo.toData ts

end

mutual

def Node.ofDatum : Datum → Node
  | .record [kind, pos, stop, text, operator, type, contextualType, .list children] =>
    ⟨.ofName kind.asText, pos.asWord, stop.asWord, text.asOption asText, operator.asOption asText,
      type.asOption TypeInfo.ofDatum, contextualType.asOption TypeInfo.ofDatum,
      Node.ofData children⟩
  | _ => default

def Node.ofData : List Datum → List Node
  | [] => []
  | d :: ds => Node.ofDatum d :: Node.ofData ds

end

mutual

def Node.toDatum : Node → Datum
  | ⟨kind, pos, stop, text, operator, type, contextualType, children⟩ =>
    .record [.choice kind.name, .word pos, .word stop, .ofOption .text text,
      .ofOption .text operator, .ofOption TypeInfo.toDatum type,
      .ofOption TypeInfo.toDatum contextualType, .list (Node.toData children)]

def Node.toData : List Node → List Datum
  | [] => []
  | n :: ns => Node.toDatum n :: Node.toData ns

end

def CheckerMessage.ofDatum : Datum → CheckerMessage
  | .record [severity, code, message, start, length] =>
    ⟨.ofName severity.asText, code.asWord, message.asText, start.asOption asWord,
      length.asOption asWord⟩
  | _ => default

def CheckerMessage.toDatum (m : CheckerMessage) : Datum :=
  .record [.choice m.severity.name, .word m.code, .text m.message, .ofOption .word m.start,
    .ofOption .word m.length]

def SourceFile.ofDatum : Datum → SourceFile
  | .record [fileName, isDeclarationFile, text, messages, output, .list statements] =>
    ⟨fileName.asText, isDeclarationFile.asFlag, text.asText,
      messages.asList CheckerMessage.ofDatum, output.asOption asText, Node.ofData statements⟩
  | _ => default

def SourceFile.toDatum (f : SourceFile) : Datum :=
  .record [.text f.fileName, .flag f.isDeclarationFile, .text f.text,
    .list (f.messages.map CheckerMessage.toDatum), .ofOption .text f.output,
    .list (Node.toData f.statements)]

/-! ## Reading and writing documents -/

def TypeInfo.parse (text : String) : Except Json.Failure TypeInfo :=
  (Json.readRecord treeSchema .type text.toList).map TypeInfo.ofDatum

def TypeInfo.toJson (t : TypeInfo) : Json := Json.write treeSchema (.record .type) t.toDatum

def SourceFile.parse (text : String) : Except Json.Failure SourceFile :=
  (Json.readRecord treeSchema .file text.toList).map SourceFile.ofDatum

def SourceFile.toJson (f : SourceFile) : Json := Json.write treeSchema (.record .file) f.toDatum

def SourceFile.render (f : SourceFile) : String := String.ofList (Json.compact f.toJson)

end Conformance
