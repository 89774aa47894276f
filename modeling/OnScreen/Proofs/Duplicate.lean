import OnScreen.Proofs.Expiry
import OnScreen.Proofs.Session

/-!
# Duplicates

A submission may ask not to be queued if the same message is still to be seen. The check looks at
the stored messages, without a frame; it must find exactly what a frame would draw.

Results:
* `Overlay.hasMessage_iff_shows`: the check finds what a frame that draws would place.
* `Overlay.ids_submit_perm`: a queued submission stores one message more.
* `duplicate_check`: both, and what a submission does, in every state of a run.
-/

namespace OnScreen

/-- At the reading at which it is queued a message is pending. -/
theorem Request.isPending_toMessage (request : Request) (type : MessageType) (now : Reading) :
    (request.toMessage type now).isPending now = true := by
  have hage : (request.toMessage type now).age now = 0 := by
    show now.toNat - now.toNat = 0
    omega
  rw [Message.isPending_iff (by omega), hage]
  refine ⟨rfl, ?_⟩
  rintro ⟨-, hdrawn | htimeout⟩
  · cases hdrawn
  · omega

namespace Overlay

variable {overlay : Overlay} {now : Reading} {type : MessageType}

/-! ## The check and the frame -/

/-- A frame on this renderer places a message of this type and text from the stack. -/
def Shows {ρ : Type} (overlay : Overlay) (R : Renderer ρ) (now : Reading) (renderer : ρ)
    (stack : String) (type : MessageType) (text : String) : Prop :=
  ∃ id p m, (id, p) ∈ overlay.placed R now renderer ∧ p.stack = stack ∧ p.text = text ∧
    overlay.registry.message? id = some m ∧ m.type = type

/-- What the check looks for. -/
theorem hasMessage_iff {stack text : String} :
    overlay.hasMessage now stack type text = true ↔
      ∃ key m, overlay.registry.message? ⟨stack, key⟩ = some m ∧ key.type = type ∧
        m.isPending now = true ∧ m.text = text := by
  unfold hasMessage
  cases hs : overlay.registry.get? stack with
  | none =>
    constructor
    · intro h
      cases h
    · rintro ⟨key, m, hm, -⟩
      obtain ⟨stack', hs', -⟩ := Registry.message?_eq_some_iff.mp hm
      rw [hs] at hs'
      cases hs'
  | some stack' =>
    show stack'.hasMessage type text now = true ↔ _
    rw [Stack.hasMessage_iff]
    constructor
    · rintro ⟨key, m, hm, h⟩
      exact ⟨key, m, (Registry.message?_of_get? hs key).trans hm, h⟩
    · rintro ⟨key, m, hm, h⟩
      exact ⟨key, m, (Registry.message?_of_get? hs key).symm.trans hm, h⟩

section

variable {ρ : Type} (R : Renderer ρ) {renderer : ρ} {stack text : String}

/-- A frame that draws places the pending messages. -/
theorem shows_iff (h : overlay.registry.WellFormed) (henabled : overlay.enabled = true) :
    overlay.Shows R now renderer stack type text ↔
      ∃ key m, overlay.registry.message? ⟨stack, key⟩ = some m ∧ key.type = type ∧
        m.isPending now = true ∧ m.text = text := by
  constructor
  · rintro ⟨id, p, m, hplaced, rfl, rfl, hm, rfl⟩
    obtain ⟨m', hm', hp, hstack, htext, -⟩ := of_mem_placed R h hplaced
    have heq : m = m' := Option.some.inj (hm.symm.trans hm')
    subst heq
    refine ⟨id.key, m, ?_, (h.type_eq hm).symm, hp, htext.symm⟩
    rw [hstack]
    exact hm
  · rintro ⟨key, m, hm, hkey, hp, htext⟩
    have hid : ⟨stack, key⟩ ∈ overlay.placedIds R now renderer :=
      (mem_placedIds_iff R h).mpr ⟨henabled, m, hm, hp⟩
    obtain ⟨⟨id, p⟩, hplaced, hid'⟩ := List.mem_map.mp hid
    cases hid'
    obtain ⟨m', hm', -, hstack, htext', -⟩ := of_mem_placed R h hplaced
    have heq : m = m' := Option.some.inj (hm.symm.trans hm')
    subst heq
    exact ⟨_, p, m, hplaced, hstack, htext'.trans htext, hm, (h.type_eq hm).trans hkey⟩

/-- The check finds exactly what a frame that draws would place. -/
theorem hasMessage_iff_shows (h : overlay.registry.WellFormed) :
    overlay.hasMessage now stack type text = true ↔
      ({ overlay with enabled := true } : Overlay).Shows R now renderer stack type text := by
  have hwf : ({ overlay with enabled := true } : Overlay).registry.WellFormed := h
  rw [hasMessage_iff, shows_iff R hwf rfl]

end

/-! ## What a submission stores -/

variable {request : Request}

theorem nextId_not_mem_ids (h : overlay.registry.WellFormed) :
    overlay.nextId type request ∉ overlay.registry.ids := by
  have hnone : overlay.registry.message? (overlay.nextId type request) = none :=
    h.message?_next _ _
  rw [h.mem_ids_iff, hnone]
  simp

/-- A queued submission stores one message more. -/
theorem ids_submit_perm (h : overlay.registry.WellFormed) (hq : overlay.Queues now type request) :
    (overlay.submit now type request).value.1.registry.ids.Perm
      (overlay.nextId type request :: overlay.registry.ids) := by
  have hafter := wellFormed_submit h now type request
  rw [List.perm_ext_iff_of_nodup hafter.nodup_ids
    (List.nodup_cons.mpr ⟨nextId_not_mem_ids h, h.nodup_ids⟩)]
  intro id
  rw [hafter.mem_ids_iff, message?_submit hq, List.mem_cons, h.mem_ids_iff]
  by_cases hid : id = overlay.nextId type request
  · simp [hid]
  · rw [if_neg hid, Option.isSome_map]
    exact (or_iff_right hid).symm

/-- After a submission, queued or not, the check finds its message. -/
theorem hasMessage_submit (overlay : Overlay) (now : Reading) (type : MessageType)
    (request : Request) :
    (overlay.submit now type request).value.1.hasMessage now (overlay.target request) type
      request.text = true := by
  rcases submit_cases overlay now type request with ⟨-, hfound, hv⟩ | ⟨-, hv⟩
  · rw [hv]
    exact hfound
  · have hq : overlay.Queues now type request := by
      unfold Queues
      rw [hv]
    rw [hasMessage_iff]
    exact ⟨(overlay.nextId type request).key, request.toMessage type now,
      message?_submit_nextId hq, rfl, request.isPending_toMessage type now, rfl⟩

end Overlay

/-- In every state of a run, the check finds exactly what a frame that draws, on any renderer, would
place, by its report, from a registered stack. A submission is a duplicate exactly if it asks not to
be one and its message would be placed; then nothing changes, and otherwise one live message more is
stored. Either way the check finds the message afterwards. -/
theorem duplicate_check {ρ σ : Type} (initial : ρ) (steps : List (Step ρ)) (R : Renderer σ)
    (renderer : σ) (now : Reading) :
    let overlay := ((Session.start initial).run steps).overlay
    let drawing : Overlay := { overlay with enabled := true }
    (drawing.placed R now renderer).map Prod.snd =
        (drawing.draw R now renderer).report.placements ∧
    (∀ stack type text,
      overlay.hasMessage now stack type text = true ↔
        (stack = "" ∨ stack ∈ overlay.registry.names) ∧
          drawing.Shows R now renderer stack type text) ∧
    ∀ type request,
      let target := overlay.target request
      let id := overlay.nextId type request
      let result := (overlay.submit now type request).value
      (result.2 = .duplicate ↔
        request.preventDuplicate = true ∧
          drawing.Shows R now renderer target type request.text) ∧
      ((result.2 = .duplicate ∧ result.1 = overlay) ∨
        (result.2 = .queued ∧ id ∉ overlay.registry.ids ∧
          result.1.registry.ids.Perm (id :: overlay.registry.ids) ∧
          result.1.registry.message? id = some (request.toMessage type now) ∧
          (request.toMessage type now).isLive = true)) ∧
      result.1.hasMessage now target type request.text = true := by
  intro overlay drawing
  have hwf : overlay.registry.WellFormed :=
    Session.wellFormed_run (Session.wellFormed_start initial) steps
  have hagree : ∀ stack type text, overlay.hasMessage now stack type text = true ↔
      drawing.Shows R now renderer stack type text := fun _ _ _ =>
    Overlay.hasMessage_iff_shows R hwf
  refine ⟨drawing.map_snd_placed R now renderer, ?_, ?_⟩
  · intro stack type text
    rw [← hagree]
    constructor
    · intro h
      obtain ⟨key, m, hm, -⟩ := Overlay.hasMessage_iff.mp h
      obtain ⟨stack', hs, -⟩ := Registry.message?_eq_some_iff.mp hm
      exact ⟨Registry.mem_names_of_get? hs, h⟩
    · exact And.right
  · intro type request target id result
    refine ⟨?_, ?_, Overlay.hasMessage_submit overlay now type request⟩
    · rw [← hagree, ← Overlay.not_queues_iff]
      constructor
      · intro hduplicate hq
        exact absurd (hduplicate.symm.trans hq) (by simp)
      · intro hq
        show (overlay.submit now type request).value.2 = _
        rw [Overlay.submit_of_not_queues hq]
    · by_cases hq : overlay.Queues now type request
      · exact Or.inr ⟨hq, Overlay.nextId_not_mem_ids hwf, Overlay.ids_submit_perm hwf hq,
          Overlay.message?_submit_nextId hq, rfl⟩
      · have hv := Overlay.submit_of_not_queues hq
        exact Or.inl ⟨congrArg Prod.snd hv, congrArg Prod.fst hv⟩

end OnScreen
