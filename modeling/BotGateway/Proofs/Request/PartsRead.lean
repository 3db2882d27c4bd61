import BotGateway.Proofs.Request.Contents
import BotGateway.Proofs.Request.PartHeaders
import BotGateway.Proofs.Request.Repetition
import BotGateway.Proofs.Schema.Gathered
import BotGateway.Proofs.Text.Cutting

/-! Multipart bodies as they are read by one who is told the content type alone: cut at the boundary
lines, each piece a header, a blank line and data. What was sent is read, part by part; a name that
ends in what stands before a file name hides the file name behind it. -/
namespace BotGateway
open Utf8 Text

structure ReadPart where
  name : Text
  fileName : Option Text
  data : Bytes
  deriving DecidableEq, Repr

def PartData.raw : PartData → Bytes
  | .bytes raw => raw
  | .text t => bytesOf t

namespace Part

def fileMark : Text := "; filename="

def shown (part : Part) : ReadPart :=
  ⟨escaped part.name,part.fileName.map escaped,part.data.raw⟩

/-- A file name looked for from the start of the header is found in the name where the name ends in the
mark: its own quote is then taken for the one that opens a file name. -/
def found (part : Part) : ReadPart :=
  ⟨escaped part.name,
    part.fileName.map fun f => if fileMark <:+ escaped part.name then fileMark else escaped f,
    part.data.raw⟩

def Misnamed (part : Part) : Prop :=
  fileMark <:+ escaped part.name ∧ ∃ f ∈ part.fileName, escaped f ≠ fileMark

theorem foundShown (part : Part) : part.found = part.shown ↔ ¬ part.Misnamed := by
  obtain ⟨name,fileName,data⟩ := part
  rw [found,shown,Misnamed,ReadPart.mk.injEq]
  cases fileName with
  | none => simp
  | some f =>
    by_cases ends : fileMark <:+ escaped name <;> simp [ends,eq_comm]

end Part

namespace Multipart
open BotGateway.Part

def quoted? (mark text : Text) : Option (Text × Text) := do
  let (_,rest) ← cutFirst mark text
  splitFirst ('"' : CodePoint) rest

def names (head : Text) : Option (Text × Option Text) := do
  let (name,_) ← quoted? "; name=\"" head
  return (name,(quoted? "; filename=\"" head).map (·.1))

def lineBreak : Bytes := ascii "\r\n"

def blankLine : Bytes := ascii "\r\n\r\n"

def readPart (piece : Bytes) : Option ReadPart := do
  let (head,data) ← cutFirst blankLine ((piece.drop 2).take (piece.length - 4))
  let head ← decode? head
  let (name,fileName) ← names head
  return ⟨name,fileName,data⟩

def readParts (payload : Payload) : Option (List ReadPart) := do
  let (_,boundary) ← cutFirst "boundary=" payload.contentType
  let pieces := cutAll (bytesOf (delimiter boundary)) 0 payload.body
  let last ← pieces.getLast?
  if (contentType []).isPrefixOf payload.contentType && (ascii "--").isPrefixOf last then
    pieces.tail.dropLast.mapM readPart
  else none

variable {boundary : Text} {part : Part} {segment : Bytes}

/-- A part that holds no boundary line as it is written. -/
structure Spared (boundary : Text) (part : Part) : Prop where
  name : ¬ delimiter boundary <:+: escaped part.name
  fileName : ∀ fileName ∈ part.fileName, ¬ delimiter boundary <:+: escaped fileName
  data : ¬ bytesOf (delimiter boundary) <:+: part.data.raw

/-- A part that holds no boundary line as it is given. -/
structure Absent (boundary : Text) (part : Part) : Prop where
  name : ¬ delimiter boundary <:+: part.name
  fileName : ∀ fileName ∈ part.fileName, ¬ delimiter boundary <:+: fileName
  data : ¬ bytesOf (delimiter boundary) <:+: part.data.raw

theorem Absent.spared (percent : ('%' : CodePoint) ∉ boundary) (absent : Absent boundary part) :
    Spared boundary part where
  name := mt (delimiterEscaped percent) absent.name
  fileName fileName held := mt (delimiterEscaped percent) (absent.fileName fileName held)
  data := absent.data

theorem segmentMade (made : part.segment = .ok segment) : part.Sendable ∧
    segment = bytesOf part.heading ++ (blankLine ++ (part.data.raw ++ lineBreak)) := by
  have sendable : part.Sendable := by
    obtain ⟨raw,same⟩ : ∃ raw, part.encode [] = .ok raw := by
      rw [encodeSegment,made]
      exact ⟨_,rfl⟩
    exact encodedSendable same
  obtain ⟨header,written,made⟩ := exceptOk.mp made
  obtain ⟨data,held,same⟩ := exceptOk.mp made
  have content : data = part.data.raw := by
    cases kind : part.data with
    | bytes raw =>
      rw [kind] at held
      cases held
      rfl
    | text t =>
      rw [kind] at held
      exact (encodeSome.mp held).2
  have head : header = bytesOf part.heading ++ blankLine := by
    rw [(encodeSome.mp written).2,headerHeading,bytesOf,List.flatMap_append]
    rfl
  cases same
  refine ⟨sendable,?_⟩
  rw [content,head]
  simp only [List.append_assoc]
  rfl

theorem delimiterLow (delimits : Delimits boundary) : ∀ c ∈ delimiter boundary, c.val < 0x80 :=
  fun _ member => (delimiterPlain delimits member).1

theorem markForeign (delimits : Delimits boundary) {c : CodePoint} (low : c.val < 0x80) (mark : c ∈ marks) :
    lowByte c ∉ bytesOf (delimiter boundary) :=
  fun member => delimiterUnmarked delimits mark (lowAmong low member)

theorem delimiterFilled (boundary : Text) : bytesOf (delimiter boundary) ≠ [] := List.cons_ne_nil _ _

theorem segmentSpared (delimits : Delimits boundary) (spared : Spared boundary part)
    (made : part.segment = .ok segment) : ∃ front, lineBreak ++ segment = front ++ [lowByte '\n'] ∧
      ¬ bytesOf (delimiter boundary) <:+: front := by
  have back := markForeign delimits (c := ('\r' : CodePoint)) (by decide) (by decide)
  have feed := markForeign delimits (c := ('\n' : CodePoint)) (by decide) (by decide)
  obtain ⟨_,rfl⟩ := segmentMade made
  refine ⟨[] ++ lowByte '\r' :: ([] ++ lowByte '\n' :: (bytesOf part.heading ++ lowByte '\r' ::
    ([] ++ lowByte '\n' :: ([] ++ lowByte '\r' :: ([] ++ lowByte '\n' :: (part.data.raw ++
      lowByte '\r' :: [])))))),?_,?_⟩
  · simp only [List.append_assoc,List.cons_append,List.nil_append]
    rfl
  · simp only [splitPiece back,splitPiece feed,List.infix_nil,delimiterFilled,false_or,or_false,not_or]
    exact ⟨fun within => headingSpared delimits spared.name spared.fileName
      (lowWithin (delimiterLow delimits) within),spared.data⟩

theorem closingSpared (delimits : Delimits boundary) :
    ¬ bytesOf (delimiter boundary) <:+: ascii "--\r\n" := by
  have back := markForeign delimits (c := ('\r' : CodePoint)) (by decide) (by decide)
  have length : 2 < (bytesOf (delimiter boundary)).length := by
    have filled := List.length_pos_iff.mpr delimits.filled
    rw [bytesOfLow (delimiterLow delimits),List.length_map,delimiter,List.length_append]
    exact Nat.lt_add_of_pos_right filled
  have opened : ascii "--\r\n" = ascii "--" ++ lowByte '\r' :: [lowByte '\n'] := by rfl
  rw [opened,splitPiece back]
  rintro (dashes | feed)
  · exact absurd dashes.length_le (Nat.not_le.mpr length)
  · exact absurd feed.length_le (Nat.not_le.mpr (Nat.lt_of_succ_lt length))

theorem boundedCut (delimits : Delimits boundary) {segments : List Bytes}
    (each : ∀ segment ∈ segments, ∃ front, lineBreak ++ segment = front ++ [lowByte '\n'] ∧
      ¬ bytesOf (delimiter boundary) <:+: front) :
    cutAll (bytesOf (delimiter boundary)) 0 (bounded boundary segments) =
      [] :: (segments.map (lineBreak ++ ·) ++ [ascii "--\r\n"]) := by
  have feed := markForeign delimits (c := ('\n' : CodePoint)) (by decide) (by decide)
  induction segments with
  | nil =>
    have last : bounded boundary [] = bytesOf (delimiter boundary) ++ ascii "--\r\n" := by
      simp only [bounded,delimiter,bytesOf,List.flatMap_append,List.append_assoc]
      rfl
    rw [last,cutMark (delimiterFilled boundary),cutNone (closingSpared delimits)]
    rfl
  | cons segment rest ih =>
    obtain ⟨here,later⟩ := List.forall_mem_cons.mp each
    obtain ⟨front,same,absent⟩ := here
    have first : bounded boundary (segment :: rest) =
        bytesOf (delimiter boundary) ++ (front ++ lowByte '\n' :: bounded boundary rest) := by
      have joined : bytesOf ("--" ++ boundary ++ lineEnd) = bytesOf (delimiter boundary) ++ lineBreak := by
        rw [bytesOf,List.flatMap_append]
        rfl
      rw [bounded,joined,List.append_assoc (bytesOf _),← List.singleton_append,← List.append_assoc front,
        ← same]
      simp only [List.append_assoc]
    rw [first,cutMark (delimiterFilled boundary),cutFront feed absent (ih later),List.map_cons,same]
    rfl

theorem blankLineFilled : blankLine ≠ [] := List.cons_ne_nil _ _

theorem unbrokenBytes {t : Text} (back : ('\r' : CodePoint) ∉ t) (feed : ('\n' : CodePoint) ∉ t) :
    ∀ b ∈ bytesOf t, b ∉ blankLine := by
  have ends : blankLine = [lowByte '\r',lowByte '\n',lowByte '\r',lowByte '\n'] := by rfl
  intro b member among
  simp only [ends,List.mem_cons,List.not_mem_nil,or_false] at among
  rcases among with rfl | rfl | rfl | rfl
  · exact back (lowAmong (by decide) member)
  · exact feed (lowAmong (by decide) member)
  · exact back (lowAmong (by decide) member)
  · exact feed (lowAmong (by decide) member)

theorem labelledUnbroken {label name : Text} {c : CodePoint} (mark : c ∈ marks)
    (quote : c ≠ ('"' : CodePoint)) (outside : c ∉ label) : c ∉ label ++ quotedName name := by
  have inside := escapedFree mark name
  simp [quotedEscaped,outside,inside,quote]

theorem labelledOver {label name : Text} (back : ('\r' : CodePoint) ∉ label)
    (feed : ('\n' : CodePoint) ∉ label) (rest : Bytes) :
    cutFirst blankLine (bytesOf (label ++ quotedName name) ++ rest) =
      (cutFirst blankLine rest).map fun (before,after) =>
        (bytesOf (label ++ quotedName name) ++ before,after) :=
  cutFirstOver blankLineFilled (unbrokenBytes (labelledUnbroken (by decide) (by decide) back)
    (labelledUnbroken (by decide) (by decide) feed)) rest

theorem mediaOver (fileName : Text) (rest : Bytes) :
    cutFirst blankLine (bytesOf (MediaType.guess fileName) ++ rest) =
      (cutFirst blankLine rest).map fun (before,after) =>
        (bytesOf (MediaType.guess fileName) ++ before,after) := by
  obtain ⟨_,free⟩ := MediaType.guessPlain fileName
  exact cutFirstOver blankLineFilled (unbrokenBytes (free _ (by decide)) (free _ (by decide))) rest

theorem headingCut (part : Part) (raw : Bytes) :
    cutFirst blankLine (bytesOf part.heading ++ (blankLine ++ raw)) =
      some (bytesOf part.heading,raw) := by
  have here := cutFirstHere blankLineFilled raw
  unfold heading behindName
  cases part.fileName with
  | none =>
    simp only [List.append_nil]
    rw [labelledOver (by decide) (by decide),here]
    simp
  | some f =>
    have lines : bytesOf (fileLines f) = bytesOf ("; filename=" ++ quotedName f) ++
        (ascii "\r\nContent-Type:" ++ lowByte ' ' :: bytesOf (MediaType.guess f)) := by
      simp only [fileLines,bytesOfAppend,List.append_assoc]
      rfl
    dsimp only
    rw [bytesOfAppend,lines]
    simp only [List.append_assoc,List.cons_append]
    rw [labelledOver (by decide) (by decide),labelledOver (by decide) (by decide),
      cutFirstFront (by decide) (by decide),mediaOver,here]
    simp

theorem headingOpened (part : Part) : part.heading =
    Text.ofString "Content-Disposition: form-data; name=" ++ ('"' : CodePoint) ::
      (escaped part.name ++ ('"' : CodePoint) :: behindName part) := by
  simp only [heading,quotedEscaped,List.append_assoc,List.cons_append,List.nil_append]

theorem fileLinesOpened (fileName : Text) : fileLines fileName =
    Text.ofString "; filename=" ++ ('"' : CodePoint) :: (escaped fileName ++ ('"' : CodePoint) ::
      (lineEnd ++ "Content-Type: " ++ MediaType.guess fileName)) := by
  simp only [fileLines,quotedEscaped,List.append_assoc,List.cons_append,List.nil_append]

theorem escapedUnquoted (name : Text) : ('"' : CodePoint) ∉ escaped name :=
  escapedFree (by decide) name

theorem nameRead (part : Part) :
    quoted? "; name=\"" part.heading = some (escaped part.name,behindName part) := by
  have cut (rest : Text) : cutFirst "; name=\"" (Text.ofString "Content-Disposition: form-data; name=" ++
      ('"' : CodePoint) :: rest) = some (Text.ofString "Content-Disposition: form-data",rest) := by rfl
  rw [quoted?,headingOpened,cut]
  exact splitFirstAt (escapedUnquoted part.name) _

theorem fileNameRead (fileName : Text) : ∃ rest,
    quoted? (fileMark ++ [('"' : CodePoint)]) (fileLines fileName) = some (escaped fileName,rest) := by
  have opened : fileLines fileName = (fileMark ++ [('"' : CodePoint)]) ++ (escaped fileName ++
      ('"' : CodePoint) :: (lineEnd ++ "Content-Type: " ++ MediaType.guess fileName)) := by
    simp only [fileLinesOpened,fileMark,List.append_assoc,List.singleton_append]
  rw [quoted?,opened,cutFirstHere (by simp)]
  exact ⟨_,splitFirstAt (escapedUnquoted fileName) _⟩

theorem quotedPast {front : Text} (outside : ('"' : CodePoint) ∉ front) (other : ¬ fileMark <:+ front)
    (rest : Text) : quoted? (fileMark ++ [('"' : CodePoint)]) (front ++ ('"' : CodePoint) :: rest) =
      quoted? (fileMark ++ [('"' : CodePoint)]) rest := by
  have unquoted : ('"' : CodePoint) ∉ fileMark := by decide
  rw [quoted?,cutFirstPast unquoted outside other,quoted?]
  cases cutFirst (fileMark ++ [('"' : CodePoint)]) rest <;> rfl

theorem quotedOnce {name : Text} (outside : ('"' : CodePoint) ∉ name) :
    quoted? (fileMark ++ [('"' : CodePoint)]) (name ++ [('"' : CodePoint)]) = none := by
  rw [quoted?]
  cases cut : cutFirst (fileMark ++ [('"' : CodePoint)]) (name ++ [('"' : CodePoint)]) with
  | none => rfl
  | some found =>
    obtain ⟨before,after⟩ := found
    have quotes := congrArg (List.count ('"' : CodePoint)) (cutFirstWhole cut)
    have one : name.count ('"' : CodePoint) = 0 := List.count_eq_zero.mpr outside
    simp only [List.count_append,List.count_singleton_self,one] at quotes
    have none : after.count ('"' : CodePoint) = 0 := by omega
    exact splitFirstNone (List.count_eq_zero.mp none)

theorem quotedEnding {name : Text} (outside : ('"' : CodePoint) ∉ name) (ends : fileMark <:+ name)
    (fileName : Text) : ∃ rest, quoted? (fileMark ++ [('"' : CodePoint)])
      (name ++ ('"' : CodePoint) :: fileLines fileName) = some (fileMark,rest) := by
  obtain ⟨front,rfl⟩ := ends
  have before : ('"' : CodePoint) ∉ front := fun member => outside (List.mem_append_left _ member)
  have unquoted : ('"' : CodePoint) ∉ fileMark := by decide
  rw [quoted?,List.append_assoc,cutFirstEnding unquoted before,fileLinesOpened]
  exact ⟨_,splitFirstAt unquoted _⟩

theorem fileNameFound (part : Part) :
    (quoted? (fileMark ++ [('"' : CodePoint)]) part.heading).map (·.1) = part.found.fileName := by
  rw [headingOpened,quotedPast (by decide) (by decide),behindName,found]
  cases part.fileName with
  | none => rw [quotedOnce (escapedUnquoted part.name)]; rfl
  | some f =>
    dsimp only [Option.map_some]
    split
    · rename_i ends
      obtain ⟨rest,read⟩ := quotedEnding (escapedUnquoted part.name) ends f
      rw [read]
      rfl
    · rename_i other
      obtain ⟨rest,read⟩ := fileNameRead f
      rw [quotedPast (escapedUnquoted part.name) other,read]
      rfl

theorem namesRead (part : Part) :
    names part.heading = some (escaped part.name,part.found.fileName) := by
  rw [← fileNameFound]
  simp only [names,nameRead]
  rfl

theorem innerCut (inner : Bytes) : ((lineBreak ++ (inner ++ lineBreak)).drop 2).take
    ((lineBreak ++ (inner ++ lineBreak)).length - 4) = inner := by
  have two : lineBreak.length = 2 := by rfl
  have length : (lineBreak ++ (inner ++ lineBreak)).length - 4 = inner.length := by
    simp only [List.length_append,two]
    omega
  rw [List.drop_left' two,length,List.take_left' rfl]

theorem partRead (made : part.segment = .ok segment) :
    readPart (lineBreak ++ segment) = some part.found := by
  obtain ⟨sendable,written⟩ := segmentMade made
  have opened : segment = (bytesOf part.heading ++ (blankLine ++ part.data.raw)) ++ lineBreak := by
    simp only [written,List.append_assoc]
  have header : Encodable part.heading :=
    ((encodableAppend _ _).mp (headerHeading part ▸ (headerEncodable part).mpr
      ⟨sendable.name,sendable.fileName⟩)).1
  rw [readPart,opened,innerCut,headingCut]
  simp [decode?,decodeBytesOf header,namesRead]
  rfl

theorem segmentsMade {parts : List Part} {all : List Bytes} (made : segments parts = .ok all) :
    List.Forall₂ (fun part segment => part.segment = .ok segment) parts all := by
  induction parts generalizing all with
  | nil =>
    cases made
    exact .nil
  | cons part rest ih =>
    obtain ⟨first,here,made⟩ := exceptOk.mp made
    obtain ⟨others,later,same⟩ := exceptOk.mp made
    cases same
    exact .cons here (ih later)

theorem piecesRead {parts : List Part} {all : List Bytes}
    (made : List.Forall₂ (fun part segment => part.segment = .ok segment) parts all) :
    (all.map (lineBreak ++ ·)).mapM readPart = some (parts.map found) := by
  induction made with
  | nil => rfl
  | cons here _ ih =>
    rw [List.map_cons,List.mapM_cons,partRead here,ih]
    rfl

theorem partsReadAlong (delimits : Delimits boundary) {parts : List Part} {payload : Payload}
    (form : payload.contentType = contentType boundary)
    (encoded : encodeParts boundary parts = .ok payload.body)
    (spared : ∀ part ∈ parts, Spared boundary part) : readParts payload = some (parts.map found) := by
  rw [encodePartsSegments] at encoded
  cases made : segments parts with
  | error found =>
    rw [made] at encoded
    cases encoded
  | ok all =>
    rw [made] at encoded
    have body : bounded boundary all = payload.body := Except.ok.inj encoded
    have each := segmentsMade made
    have cut := boundedCut delimits fun segment member => by
      obtain ⟨part,among,sent⟩ := (relatedMembers each).2 segment member
      exact segmentSpared delimits (spared part among) sent
    have typed : cutFirst "boundary=" (contentType boundary) =
        some (Text.ofString "multipart/form-data; ",boundary) := by rfl
    have begins : (contentType []).isPrefixOf (contentType boundary) = true :=
      List.isPrefixOf_iff_prefix.mpr ⟨boundary,rfl⟩
    have last : ([] :: (all.map (lineBreak ++ ·) ++ [ascii "--\r\n"])).getLast? = some (ascii "--\r\n") := by
      rw [← List.cons_append,List.getLast?_concat]
    have closed : (ascii "--").isPrefixOf (ascii "--\r\n") = true := by rfl
    rw [readParts,form,typed]
    simp only [Option.bind_eq_bind,Option.bind_some,← body,cut,last,begins,closed,Bool.and_self,if_true,
      List.tail_cons,List.dropLast_concat,piecesRead each]

end Multipart

namespace Payload
open Attachment Multipart BotGateway.Part

structure SentAs (shelf : Shelf) (parameters : Value) (files form : List Part) : Prop where
  read : partsOn shelf (Prepared.ofParameters parameters).attachments = .ok files
  written : formParts (Prepared.ofParameters parameters).fields = .ok form
  files : ∃ found, parameters.LocalFiles found ∧ List.Forall₂ (fun place part =>
    part.name = nameOf place.1.names ∧ Carries shelf part place.2) found files
  form : List.Forall₂ (fun field part => ∃ t, fieldText field.2 = .ok t ∧ part = ⟨field.1,none,.text t⟩)
    (Prepared.ofParameters parameters).fields form

variable {boundary : Text} {parameters : Value} {scene : Scene Shelf} {payload : Payload}

theorem filesGiven (having : (Prepared.ofParameters parameters).attachments ≠ []) :
    parameters.isParameters := by
  cases parameters with
  | map | record => rfl
  | file f =>
    obtain ⟨fileId,url,content⟩ := f
    cases fileId <;> cases url <;> cases content <;>
      exact absurd rfl having
  | _ => exact absurd rfl having

theorem formPartsEach {fields : List (Text × Value)} {form : List Part}
    (written : formParts fields = .ok form) : List.Forall₂ (fun field part =>
      ∃ t, fieldText field.2 = .ok t ∧ part = ⟨field.1,none,.text t⟩) fields form := by
  induction fields generalizing form with
  | nil =>
    cases written
    exact .nil
  | cons field rest ih =>
    obtain ⟨name,value⟩ := field
    rw [formParts] at written
    obtain ⟨t,shown,written⟩ := exceptOk.mp written
    obtain ⟨others,later,same⟩ := exceptOk.mp written
    cases same
    exact .cons ⟨t,shown,rfl⟩ (ih later)

theorem sentParts (sent : encoded boundary parameters scene = .ok payload)
    (form : payload.contentType ≠ documentType) : ∃ files fields, SentAs scene.world parameters files fields ∧
      payload.contentType = Multipart.contentType boundary ∧
      encodeParts boundary (files ++ fields) = .ok payload.body := by
  obtain ⟨after,same⟩ : ∃ after, (encode boundary parameters).perform scene = (.ok payload,after) :=
    ⟨_,Prod.ext sent rfl⟩
  rw [encodeShown (encodedShown same)] at same
  have having : (Prepared.ofParameters parameters).attachments ≠ [] := by
    intro none
    rw [encodedDocument none] at same
    split at same
    · cases same
      exact form rfl
    · cases same
  obtain ⟨files,fields,mid,read,written,body,typed⟩ := encodedParts having same
  obtain ⟨found,places,attached⟩ := Value.attachmentsAlong parameters
  have carried := partsOnCarry (partsRead read)
  rw [Prepared.attachmentsFound (filesGiven having),attached,Value.attach,
    List.forall₂_map_left_iff] at carried
  exact ⟨files,fields,⟨partsRead read,written,⟨found,places,carried⟩,formPartsEach written⟩,typed,body⟩

structure GivenBack (payload : Payload) (parts : List Part) : Prop where
  found : readParts payload = some (parts.map found)
  whole : readParts payload = some (parts.map shown) ↔ ∀ part ∈ parts, ¬ part.Misnamed

theorem givenBack (delimits : Delimits boundary) {parts : List Part}
    (typed : payload.contentType = Multipart.contentType boundary)
    (body : encodeParts boundary parts = .ok payload.body)
    (spared : ∀ part ∈ parts, Spared boundary part) : GivenBack payload parts := by
  have read := partsReadAlong delimits typed body spared
  refine ⟨read,?_⟩
  rw [read,Option.some.injEq,List.map_inj_left]
  exact forall₂_congr fun part _ => foundShown part

/-- A body is read as the parts that were sent, whatever they are called and hold, where no boundary line
stands in one: in what is written of it or, for boundaries without percent signs, in what is given. Only
a file name behind a misleading name is another one. -/
theorem sentPartsRead (sent : encoded boundary parameters scene = .ok payload)
    (form : payload.contentType ≠ documentType) : ∃ files form, SentAs scene.world parameters files form ∧
      (∀ part ∈ files ++ form, ∀ c ∈ marks, part.header.count c = part.nameless.header.count c) ∧
      (Delimits boundary →
        ((∀ part ∈ files ++ form, Spared boundary part) → GivenBack payload (files ++ form)) ∧
        (('%' : CodePoint) ∉ boundary → (∀ part ∈ files ++ form, Absent boundary part) →
          GivenBack payload (files ++ form))) := by
  obtain ⟨files,fields,held,typed,body⟩ := sentParts sent form
  refine ⟨files,fields,held,fun part _ c mark => marksOfNameless part mark,fun delimits =>
    ⟨givenBack delimits typed body,fun percent absent => ?_⟩⟩
  exact givenBack delimits typed body fun part member => (absent part member).spared percent

def parcel : Value :=
  .map [(.text "caption",.text "\r\n--B"),(.text "do\"c\r\n",.file ⟨none,none,
    some ⟨0,"Reader",⟨"x/a\"; name=\"b\n","''",false⟩⟩⟩),(.text "chat_id",.int 7)]

theorem parcelRead : ∃ payload, encoded "B7" parcel ⟨.empty,[(0,.streamed (ascii "\r\n--B\r\n\r\n"))]⟩ =
      .ok payload ∧
    Multipart.readParts payload =
      some [⟨"do%22c%0D%0A",some "a%22; name=%22b%0A",ascii "\r\n--B\r\n\r\n"⟩,
        ⟨"caption",none,ascii "\r\n--B"⟩,⟨"chat_id",none,ascii "7"⟩] := by
  obtain ⟨payload,sent⟩ : ∃ payload, encoded "B7" parcel
      ⟨.empty,[(0,.streamed (ascii "\r\n--B\r\n\r\n"))]⟩ = .ok payload := ⟨_,rfl⟩
  have form : payload.contentType ≠ documentType := by
    cases sent
    decide
  have delimits : Delimits "B7" := ⟨by decide,List.forall_iff_forall_mem.mp (by decide)⟩
  obtain ⟨files,fields,⟨read,written,_,_⟩,_,reads⟩ := sentPartsRead sent form
  cases read
  cases written
  refine ⟨payload,sent,((reads delimits).2 (by decide) ?_).found⟩
  simp only [List.forall_mem_append,List.forall_mem_cons,List.not_mem_nil,false_imp_iff,implies_true,
    and_true]
  exact ⟨⟨by decide,by rintro _ ⟨⟩; decide,by decide⟩,⟨by decide,nofun,by decide⟩,by decide,nofun,by decide⟩

def lone (name : Text) : Value :=
  .map [(.text name,.file ⟨none,none,some ⟨0,"Reader",⟨"y.txt","''",false⟩⟩⟩)]

def Misread (boundary name : Text) (data : Bytes) : Prop := ∃ payload files form,
  encoded boundary (lone name) ⟨.empty,[(0,.streamed data)]⟩ = .ok payload ∧
    SentAs [(0,.streamed data)] (lone name) files form ∧
    (∀ part ∈ files ++ form, Absent boundary part) ∧
    readParts payload ≠ some ((files ++ form).map shown)

theorem misreadLone {name : Text} {data : Bytes}
    (sent : encoded boundary (lone name) ⟨.empty,[(0,.streamed data)]⟩ = .ok payload)
    (form : payload.contentType ≠ documentType)
    (absent : ¬ delimiter boundary <:+: name ∧ ¬ delimiter boundary <:+: ("y.txt" : Text) ∧
      ¬ bytesOf (delimiter boundary) <:+: data)
    (other : readParts payload ≠ some [⟨escaped name,some "y.txt",data⟩]) :
    Misread boundary name data := by
  obtain ⟨files,fields,held,_,_⟩ := sentParts sent form
  have read := held.read
  have written := held.written
  cases read
  cases written
  refine ⟨payload,_,_,sent,held,fun part member => ?_,other⟩
  obtain rfl := List.mem_singleton.mp member
  obtain ⟨called,file,within⟩ := absent
  exact ⟨called,by rintro _ ⟨⟩; exact file,within⟩

/-- By the name; by what stands for a quote in it; by a boundary that is empty, ends a name, or ends a
line. -/
theorem someMisread : Misread "B7" "; filename=" (ascii "1") ∧ Misread "%22" "--\"" (ascii "1") ∧
    Misread "" "a" (ascii "1") ∧ Misread "\"" "a--" (ascii "1") ∧ Misread "\r\n" "a" (ascii "1--") := by
  refine ⟨misreadLone rfl ?_ ?_ ?_,misreadLone rfl ?_ ?_ ?_,misreadLone rfl ?_ ?_ ?_,
    misreadLone rfl ?_ ?_ ?_,misreadLone rfl ?_ ?_ ?_⟩
  all_goals decide +kernel

end Payload
end BotGateway
