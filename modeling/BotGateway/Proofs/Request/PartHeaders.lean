import BotGateway.Proofs.Request.Parts
import BotGateway.Proofs.Text.Pieces
import BotGateway.Proofs.Text.Words

/-! The headers of parts. Whatever a part and its file are called, quotes and line ends stand in its
header where they would stand without a name, and a boundary line stands nowhere in it. -/
namespace BotGateway

namespace Part

def marks : List CodePoint := ['"','\n','\r']

def escaped (name : Text) : Text := name.flatMap quotedOne

theorem quotedEscaped (name : Text) :
    quotedName name = ('"' : CodePoint) :: (escaped name ++ [('"' : CodePoint)]) := by
  rw [quotedName]
  rfl

theorem quotedPlain {c : CodePoint} (plain : c ∉ marks) : quotedOne c = [c] := by
  simp only [marks,List.mem_cons,List.not_mem_nil,or_false,not_or] at plain
  obtain ⟨quote,feed,back⟩ := plain
  rw [quotedOne,if_neg (by simpa using quote),if_neg (by simpa using feed),if_neg (by simpa using back)]

theorem quotedMark {c : CodePoint} (mark : c ∈ marks) : ∃ more, quotedOne c = ('%' : CodePoint) :: more ∧
    ('-' : CodePoint) ∉ more ∧ (('%' : CodePoint) :: more).all (!marks.contains ·) := by
  simp only [marks,List.mem_cons,List.not_mem_nil,or_false] at mark
  rcases mark with rfl | rfl | rfl
  · exact ⟨['2','2'],by decide,by decide,by decide⟩
  · exact ⟨['0','A'],by decide,by decide,by decide⟩
  · exact ⟨['0','D'],by decide,by decide,by decide⟩

theorem quotedFree {c x : CodePoint} (within : x ∈ quotedOne c) : x ∉ marks := by
  by_cases mark : c ∈ marks
  · obtain ⟨more,written,_,free⟩ := quotedMark mark
    simpa using List.all_eq_true.mp free x (written ▸ within)
  · rw [quotedPlain mark,List.mem_singleton] at within
    exact within ▸ mark

theorem escapedFree {c : CodePoint} (mark : c ∈ marks) (name : Text) : c ∉ escaped name := by
  intro member
  obtain ⟨_,_,within⟩ := List.mem_flatMap.mp member
  exact quotedFree within mark

end Part

namespace MediaType
open BotGateway.Part

def Plain (t : Text) : Prop := ¬ ("--" : Text) <:+: t ∧ ∀ c ∈ marks, c ∉ t

instance (t : Text) : Decidable (Plain t) :=
  @instDecidableAnd _ _ inferInstance (List.decidableBAll (fun c => c ∉ t) marks)

theorem guessPlain (name : Text) : Plain (guess name) :=
  guessAmong (List.forall_iff_forall_mem.mp (by decide +kernel)) (by decide) (by decide) name

end MediaType

namespace Part

def fileLines (fileName : Text) : Text :=
  "; filename=" ++ quotedName fileName ++ lineEnd ++ "Content-Type: " ++ MediaType.guess fileName

def behindName (part : Part) : Text :=
  match part.fileName with
  | some fileName => fileLines fileName
  | none => []

def heading (part : Part) : Text :=
  "Content-Disposition: form-data; name=" ++ quotedName part.name ++ behindName part

theorem headerHeading (part : Part) : part.header = part.heading ++ (lineEnd ++ lineEnd) := by
  unfold header heading behindName fileLines
  cases part.fileName <;> simp only [List.append_assoc,List.append_nil]

def nameless (part : Part) : Part := ⟨[],part.fileName.map fun _ => [],part.data⟩

theorem marksOfNameless (part : Part) {c : CodePoint} (mark : c ∈ marks) :
    part.header.count c = part.nameless.header.count c := by
  have quoted (name : Text) : (quotedName name).count c = (quotedName []).count c := by
    have absent : (escaped name).count c = 0 := List.count_eq_zero.mpr (escapedFree mark name)
    simp only [quotedEscaped,List.count_cons,List.count_append,absent]
    rfl
  have media (name : Text) : (MediaType.guess name).count c = 0 :=
    List.count_eq_zero.mpr ((MediaType.guessPlain name).2 c mark)
  obtain ⟨name,fileName,data⟩ := part
  cases fileName with
  | none => simp only [header,nameless,Option.map_none,List.count_append,quoted name]
  | some fileName =>
    simp only [header,nameless,Option.map_some,List.count_append,quoted name,quoted fileName,media]

end Part

namespace Multipart
open BotGateway.Part

structure Delimits (boundary : Text) : Prop where
  filled : boundary ≠ []
  plain : ∀ c ∈ boundary, c.val < 0x80 ∧ c ∉ marks

def delimiter (boundary : Text) : Text := "--" ++ boundary

variable {boundary : Text}

theorem delimiterPlain (delimits : Delimits boundary) {c : CodePoint} (member : c ∈ delimiter boundary) :
    c.val < 0x80 ∧ c ∉ marks := by
  rcases List.mem_append.mp member with dash | inside
  · have same : c = '-' := by
      have dashes : ("--" : Text) = ['-','-'] := by decide
      simpa [dashes] using dash
    rw [same]
    decide
  · exact delimits.plain c inside

theorem delimiterEscaped (percent : ('%' : CodePoint) ∉ boundary) {name : Text}
    (within : delimiter boundary <:+: escaped name) : delimiter boundary <:+: name := by
  have plainly : Text.Plainly quotedOne id (· ∉ marks) (delimiter boundary) := by
    constructor
    · exact fun plain => ⟨quotedPlain plain,fun _ _ same => same⟩
    · intro c mark
      obtain ⟨more,written,dash,_⟩ := quotedMark (not_not.mp mark)
      refine ⟨_,more,written,?_,?_⟩
      · rw [List.map_id]
        exact fun member => (List.mem_append.mp member).elim (by decide) percent
      · rintro w ⟨⟩
        exact dash
  exact plainly.within ((List.map_id _).symm ▸ within)

theorem delimiterDashes (boundary : Text) : ("--" : Text) <:+: delimiter boundary :=
  (List.prefix_append _ boundary).isInfix

theorem delimiterUnmarked (delimits : Delimits boundary) {c : CodePoint} (mark : c ∈ marks) :
    c ∉ delimiter boundary :=
  fun member => (delimiterPlain delimits member).2 mark

theorem quotedWithin {word before after name : Text} (foreign : ('"' : CodePoint) ∉ word) :
    word <:+: before ++ quotedName name ++ after ↔
      word <:+: before ∨ word <:+: escaped name ∨ word <:+: after := by
  have opened : before ++ quotedName name ++ after =
      before ++ ('"' : CodePoint) :: (escaped name ++ ('"' : CodePoint) :: after) := by
    simp [quotedEscaped]
  rw [opened,Text.splitPiece foreign,Text.splitPiece foreign]

theorem mediaSpared (fileName : Text) :
    ¬ delimiter boundary <:+: "Content-Type: " ++ MediaType.guess fileName := by
  intro within
  have blank : (' ' : CodePoint) ∉ ("--" : Text) := by decide
  have opened : ("Content-Type: " : Text) ++ MediaType.guess fileName =
      ("Content-Type:" : Text) ++ (' ' : CodePoint) :: MediaType.guess fileName := by rfl
  have dashes := (delimiterDashes boundary).trans within
  rw [opened,Text.splitPiece blank] at dashes
  rcases dashes with label | media
  · exact absurd label (by decide)
  · exact (MediaType.guessPlain fileName).1 media

theorem withoutDashes {t : Text} (dashless : ¬ ("--" : Text) <:+: t) : ¬ delimiter boundary <:+: t :=
  fun within => dashless ((delimiterDashes boundary).trans within)

theorem fileLinesSpared (delimits : Delimits boundary) {fileName : Text}
    (called : ¬ delimiter boundary <:+: escaped fileName) : ¬ delimiter boundary <:+: fileLines fileName := by
  have lines : fileLines fileName = ("; filename=" : Text) ++ quotedName fileName ++ ([] ++ ('\r' : CodePoint) ::
      ([] ++ ('\n' : CodePoint) :: ("Content-Type: " ++ MediaType.guess fileName : Text))) := by
    simp only [fileLines,List.append_assoc]
    rfl
  rw [lines,quotedWithin (delimiterUnmarked delimits (by decide)),
    Text.splitPiece (delimiterUnmarked delimits (by decide)),
    Text.splitPiece (delimiterUnmarked delimits (by decide))]
  rintro (label | quoted | ended | ended | media)
  · exact withoutDashes (by decide) label
  · exact called quoted
  · exact withoutDashes (by decide) ended
  · exact withoutDashes (by decide) ended
  · exact mediaSpared fileName media

theorem headingSpared (delimits : Delimits boundary) {part : Part}
    (name : ¬ delimiter boundary <:+: escaped part.name)
    (fileName : ∀ fileName ∈ part.fileName, ¬ delimiter boundary <:+: escaped fileName) :
    ¬ delimiter boundary <:+: part.heading := by
  rw [heading,quotedWithin (delimiterUnmarked delimits (by decide))]
  rintro (label | quoted | file)
  · exact withoutDashes (by decide) label
  · exact name quoted
  · unfold behindName at file
    split at file
    · rename_i held
      exact fileLinesSpared delimits (fileName _ held) file
    · exact withoutDashes (by decide) file

end Multipart
end BotGateway
