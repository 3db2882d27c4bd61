import BotGateway.Proofs.Journal.Orders

/-! What masking leaves alone: all of an event but its message, its arguments and the details that
are text, and the whole line where no token stands in any of these. -/
namespace BotGateway.Event
open Redaction (OrderOf)

structure Kept (redaction : Redaction) (kept detail : Text × Value) : Prop where
  name : kept.1 = detail.1
  other : (∀ t, detail.2 ≠ .text t) → kept.2 = detail.2
  text : ∀ t, detail.2 = .text t → kept.2 = .text (redaction.redact t)

structure Framed (redaction : Redaction) (event masked : Event) : Prop where
  source : masked.source = event.source
  severity : masked.severity = event.severity
  place : masked.place = event.place
  function : masked.function = event.function
  created : masked.created = event.created
  failure : masked.failure = event.failure
  text : ∀ text, event.text = .ok text → masked.text = .ok (redaction.redact text)
  details : List.Forall₂ (Kept redaction) masked.details event.details

structure Untouched (tokens : List Text) (event : Event) (text : Text) : Prop where
  message : ∀ token ∈ tokens, token ≠ [] → ¬ token <:+: text
  details : ∀ detail ∈ event.details, ∀ t, detail.2 = .text t →
    ∀ token ∈ tokens, token ≠ [] → ¬ token <:+: t

section Masked
variable {redaction : Redaction} {event masked : Event} {text : Text} {failure : Failure}

theorem untokened (none : redaction.tokens = []) (event : Event) : redaction.mask event = .ok event := by
  rw [Redaction.mask,if_pos (List.isEmpty_iff.mpr none)]
  rfl

theorem maskFills (some : redaction.tokens ≠ []) (filled : event.text = .ok text) :
    redaction.mask event = .ok {event with
      message := .text (redaction.redact text)
      arguments := .null
      details := event.details.map (maskDetail redaction)} := by
  rw [Redaction.mask,if_neg (by simpa using some),filled]
  rfl

theorem maskFails : redaction.mask event = .error failure ↔
    redaction.tokens ≠ [] ∧ event.text = .error failure := by
  by_cases none : redaction.tokens = []
  · rw [untokened none]
    exact iff_of_false nofun fun both => both.1 none
  · rw [and_iff_right none]
    cases filled : event.text with
    | ok text =>
      rw [maskFills none filled]
      exact iff_of_false nofun nofun
    | error cause =>
      have fails : redaction.mask event = .error cause := by
        rw [Redaction.mask,if_neg (by simpa using none),filled]
        rfl
      rw [fails,Except.error.injEq,Except.error.injEq]

theorem detailKept (redaction : Redaction) (detail : Text × Value) :
    Kept redaction (maskDetail redaction detail) detail := by
  obtain ⟨name,value⟩ := detail
  cases value with
  | text t => exact ⟨rfl,fun other => absurd rfl (other t),fun u same => by cases same; rfl⟩
  | _ => exact ⟨rfl,fun _ => rfl,nofun⟩

theorem sameKept (none : redaction.tokens = []) (detail : Text × Value) :
    Kept redaction detail detail := by
  refine ⟨rfl,fun _ => rfl,fun t isText => ?_⟩
  rw [isText,Redaction.redact,none,List.foldl_nil]

theorem detailSpared {detail : Text × Value}
    (absent : ∀ t, detail.2 = .text t → ∀ token ∈ redaction.tokens, ¬ token <:+: t) :
    maskDetail redaction detail = detail := by
  obtain ⟨name,value⟩ := detail
  cases value with
  | text t =>
    have same : redaction.redact t = t := Redaction.spared (absent t rfl)
    rw [maskDetail,Redaction.detail,same]
  | _ => rfl

theorem maskFramed (masks : redaction.mask event = .ok masked) : Framed redaction event masked := by
  by_cases none : redaction.tokens = []
  · rw [untokened none] at masks
    cases masks
    refine ⟨rfl,rfl,rfl,rfl,rfl,rfl,?_,List.forall₂_same.mpr fun detail _ => sameKept none detail⟩
    intro text filled
    rw [filled,Redaction.redact,none,List.foldl_nil]
  · obtain ⟨text,filled,same⟩ := maskedForm none masks
    rw [same]
    refine ⟨rfl,rfl,rfl,rfl,rfl,rfl,?_,?_⟩
    · intro other fills
      cases Except.ok.inj (filled.symm.trans fills)
      rfl
    · exact List.forall₂_map_left_iff.mpr
        (List.forall₂_same.mpr fun detail _ => detailKept redaction detail)

theorem Framed.line (framed : Framed redaction event masked) (text : masked.text = event.text)
    (details : masked.details = event.details) : masked.line = event.line := by
  rw [Event.line,Event.line,members,members,framed.source,framed.severity,framed.place,framed.function,
    framed.created,framed.failure,text,details]

end Masked

/-- Masking fails only where the event has no text, and keeps its frame. Where no token stands in its
text and in its details, the text is what it was, not filled a second time, and so is the line. -/
theorem maskLeaves {tokens order : List Text} (ordered : OrderOf tokens order) (event : Event) :
    (∀ masked, Redaction.mask ⟨order⟩ event = .ok masked → Framed ⟨order⟩ event masked) ∧
    (∀ failure, Redaction.mask ⟨order⟩ event = .error failure ↔
      order ≠ [] ∧ event.text = .error failure) ∧
    ∀ text, event.text = .ok text → Untouched tokens event text →
      ∃ masked, Redaction.mask ⟨order⟩ event = .ok masked ∧ masked.text = .ok text ∧
        masked.details = event.details ∧ masked.line = event.line := by
  refine ⟨fun masked masks => maskFramed masks,fun failure => maskFails,?_⟩
  intro text filled untouched
  by_cases none : order = []
  · exact ⟨event,untokened none event,filled,rfl,rfl⟩
  have absent {t : Text} (free : ∀ token ∈ tokens, token ≠ [] → ¬ token <:+: t) :
      ∀ token ∈ order, ¬ token <:+: t := by
    intro token inside
    obtain ⟨among,some⟩ := ordered.among.mp inside
    exact free token among some
  have masks := @maskFills ⟨order⟩ event text none filled
  have kept : Redaction.redact ⟨order⟩ text = text := Redaction.spared (absent untouched.message)
  have details : event.details.map (maskDetail ⟨order⟩) = event.details := by
    have same : ∀ detail ∈ event.details, maskDetail ⟨order⟩ detail = id detail :=
      fun detail inside => detailSpared fun t isText => absent (untouched.details detail inside t isText)
    rw [List.map_congr_left same,List.map_id]
  rw [kept,details] at masks
  refine ⟨_,masks,rfl,rfl,?_⟩
  exact (maskFramed masks).line filled.symm rfl

def discount (arguments : List Value) : Event :=
  {visit "%s done" [("rate",.text "100%"),("steps",.list [.text "%d"])] with
    arguments := .tuple arguments}

theorem discountStays : ∃ masked, Redaction.mask ⟨[secret]⟩ (discount [.text "50%d"]) = .ok masked ∧
    masked.text = .ok "50%d done" ∧ masked.line = (discount [.text "50%d"]).line := by
  have ordered : OrderOf [secret] [secret] := ⟨[secret],fun _ => .rfl,by decide +kernel⟩
  have untouched : Untouched [secret] (discount [.text "50%d"]) "50%d done" := by
    have free : ¬ secret <:+: "50%d done" ∧ ¬ secret <:+: "100%" := by decide +kernel
    constructor
    · intro token among _
      rw [List.mem_singleton.mp among]
      exact free.1
    · intro detail inside t isText token among _
      rw [List.mem_singleton.mp among]
      simp only [discount,visit,List.mem_cons,List.not_mem_nil,or_false] at inside
      rcases inside with rfl | rfl
      · cases isText
        exact free.2
      · cases isText
  obtain ⟨masked,masks,text,_,line⟩ := (maskLeaves ordered _).2.2 _ rfl untouched
  exact ⟨masked,masks,text,line⟩

end BotGateway.Event
