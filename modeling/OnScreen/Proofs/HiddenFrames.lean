import OnScreen.Proofs.Duplicate
import OnScreen.Proofs.Views

/-!
# Hidden frames

A frame that is drawn while messages are disabled removes the messages that are not pending, and
does nothing else. None of the removed messages would have been pending again, so nothing that is
seen of the run afterwards depends on whether the frame was drawn.

Results:
* `Registry.Alike`, `Session.Alike`: the same stacks, and the same pending messages from some
  reading on.
* `Session.Alike.step`, `Session.Alike.hiddenFrame`: steps keep sessions alike, and a hidden frame
  leaves a session like the one before it.
* `Session.Alike.observations_eq`: by induction, a run shows the same without its hidden frames.
* `Session.hidden_frames_invisible`: what hidden frames do, and what they do not.
-/

namespace OnScreen

/-- What stays of a stack when its messages are left out: the layout and the next number. -/
def Stack.outline (stack : Stack) : StackLayout × Nat :=
  (stack.layout, stack.nextSequence)

theorem Stack.map_outline_enqueue (stack? : Option Stack) (m : Message) :
    (stack?.map (Overlay.enqueue · m)).map Stack.outline =
      (stack?.map Stack.outline).map fun outline => (outline.1, outline.2 + 1) := by
  cases stack? with
  | none => rfl
  | some stack =>
    exact congrArg some (Prod.ext (layout_enqueue stack m) (nextSequence_enqueue stack m))

/-! ## Registries that look alike -/

namespace Registry

/-- The message stored under an id, if it is pending. -/
def pending? (registry : Registry) (now : Reading) (id : MessageId) : Option Message :=
  (registry.message? id).filter (·.isPending now)

theorem pending?_eq_some_iff {registry : Registry} {now : Reading} {id : MessageId} {m : Message} :
    registry.pending? now id = some m ↔
      registry.message? id = some m ∧ m.isPending now = true :=
  Option.filter_eq_some_iff

/-- What is pending later is found among what was pending before. -/
theorem filter_pending? (registry : Registry) {now now' : Reading} (h : now.toNat ≤ now'.toNat)
    (hnow' : now'.toNat < 2 ^ 63) (id : MessageId) :
    (registry.pending? now id).filter (·.isPending now') = registry.pending? now' id := by
  apply Option.ext
  intro m
  rw [Option.filter_eq_some_iff, pending?_eq_some_iff, pending?_eq_some_iff]
  constructor
  · rintro ⟨⟨hm, -⟩, hp⟩
    exact ⟨hm, hp⟩
  · rintro ⟨hm, hp⟩
    exact ⟨⟨hm, Message.isPending_of_later h hnow' hp⟩, hp⟩

/-- Two registries have the same stacks, and the same messages are pending in them from a reading
on. -/
structure Alike (since : Nat) (registry registry' : Registry) : Prop where
  registered : ∀ name,
    (registry.get? name).map Stack.outline = (registry'.get? name).map Stack.outline
  pending : ∀ now : Reading, since ≤ now.toNat → now.toNat < 2 ^ 63 →
    ∀ id, registry.pending? now id = registry'.pending? now id

namespace Alike

variable {since : Nat} {registry registry' : Registry}

theorem refl (since : Nat) (registry : Registry) : registry.Alike since registry :=
  ⟨fun _ => rfl, fun _ _ _ _ => rfl⟩

theorem symm (h : registry.Alike since registry') : registry'.Alike since registry :=
  ⟨fun name => (h.registered name).symm, fun now hs hb id => (h.pending now hs hb id).symm⟩

theorem later (h : registry.Alike since registry') {since' : Nat} (hsince : since ≤ since') :
    registry.Alike since' registry' :=
  ⟨h.registered, fun now hs hb => h.pending now (Nat.le_trans hsince hs) hb⟩

theorem isSome_get? (h : registry.Alike since registry') (name : String) :
    (registry.get? name).isSome = (registry'.get? name).isSome := by
  have hsome := congrArg Option.isSome (h.registered name)
  rw [Option.isSome_map, Option.isSome_map] at hsome
  exact hsome

theorem resolve_eq (h : registry.Alike since registry') (name : String) :
    registry.resolve name = registry'.resolve name := by
  rw [Registry.resolve_eq, Registry.resolve_eq, h.isSome_get?]

/-- The id of the next message is the same. -/
theorem next_eq (h : registry.Alike since registry') (name : String) (type : MessageType) :
    registry.next (registry.resolve name) type = registry'.next (registry'.resolve name) type := by
  have hname := h.resolve_eq name
  have houtline := h.registered (registry.resolve name)
  rw [get?_resolve, hname, get?_resolve, Option.map_some, Option.map_some] at houtline
  obtain ⟨-, hnext⟩ := Prod.mk.inj (Option.some.inj houtline)
  unfold next
  rw [hname, hnext]

/-! ### What a frame depends on -/

section

variable {now : Reading} (h : registry.Alike since registry') (hsince : since ≤ now.toNat)
  (hnow : now.toNat < 2 ^ 63)

include h hsince hnow

/-- The stacks of one name show a frame the same. -/
theorem view_eq {name : String} {stack stack' : Stack} (hs : registry.get? name = some stack)
    (hs' : registry'.get? name = some stack') : stack.view now = stack'.view now := by
  have houtline := h.registered name
  rw [hs, hs', Option.map_some, Option.map_some] at houtline
  obtain ⟨hlayout, hnext⟩ := Prod.mk.inj (Option.some.inj houtline)
  have hsorted (stack : Stack) :
      ((stack.messages.entries.filter fun e => e.2.isPending now).map Prod.fst).Pairwise
        fun a b => KeyOrder.before a b = true :=
    stack.messages.sorted.sublist (List.filter_sublist.map Prod.fst)
  have hentries : (stack.messages.entries.filter fun e => e.2.isPending now) =
      stack'.messages.entries.filter fun e => e.2.isPending now := by
    refine OrderedMap.eq_of_mem_iff (hsorted stack) (hsorted stack') fun ⟨key, m⟩ => ?_
    rw [List.mem_filter, List.mem_filter, ← OrderedMap.find?_eq_some_iff,
      ← OrderedMap.find?_eq_some_iff, ← message?_of_get? hs, ← message?_of_get? hs',
      ← pending?_eq_some_iff, ← pending?_eq_some_iff, h.pending now hsince hnow]
  unfold Stack.view
  rw [hlayout, hnext, hentries]

/-- What a frame depends on in a named stack, it finds in the other registry too. -/
theorem mem_views (hunnamed : registry.named.find? "" = none) {e : String × _}
    (he : e ∈ registry.named.entries.map fun e => (e.1, e.2.view now)) :
    e ∈ registry'.named.entries.map fun e => (e.1, e.2.view now) := by
  obtain ⟨⟨name, stack⟩, hmem, rfl⟩ := List.mem_map.mp he
  rw [← OrderedMap.find?_eq_some_iff] at hmem
  have hname : name ≠ "" := by
    rintro rfl
    rw [hunnamed] at hmem
    cases hmem
  have hs : registry.get? name = some stack := (get?_of_ne hname).trans hmem
  have hsome : (registry'.get? name).isSome = true := by
    rw [← h.isSome_get?, hs]
    rfl
  obtain ⟨stack', hs'⟩ := Option.isSome_iff_exists.mp hsome
  refine List.mem_map.mpr ⟨(name, stack'), ?_, ?_⟩
  · rw [← OrderedMap.find?_eq_some_iff, ← get?_of_ne hname]
    exact hs'
  · exact congrArg (name, ·) (h.view_eq hsince hnow hs hs').symm

/-- Stack by stack, a frame depends on the same. -/
theorem views_eq (hunnamed : registry.named.find? "" = none)
    (hunnamed' : registry'.named.find? "" = none) :
    registry.entries.map (fun e => (e.1, e.2.view now)) =
      registry'.entries.map fun e => (e.1, e.2.view now) := by
  have hsorted (registry : Registry) :
      ((registry.named.entries.map fun e => (e.1, e.2.view now)).map Prod.fst).Pairwise
        fun a b => KeyOrder.before a b = true := by
    rw [List.map_map]
    exact registry.named.sorted
  have hdefault : registry.defaultStack.view now = registry'.defaultStack.view now :=
    h.view_eq hsince hnow registry.get?_default registry'.get?_default
  have hnamed := OrderedMap.eq_of_mem_iff (hsorted registry) (hsorted registry') fun _ =>
    ⟨h.mem_views hsince hnow hunnamed, h.symm.mem_views hsince hnow hunnamed'⟩
  unfold entries
  rw [List.map_cons, List.map_cons, hdefault, hnamed]

end

/-! ### Operations -/

theorem register (h : registry.Alike since registry') (layout : StackLayout) :
    (registry.register layout).value.1.Alike since (registry'.register layout).value.1 := by
  constructor
  · intro name
    have hfree : registry.get? name = none ↔ registry'.get? name = none := by
      rw [← Option.not_isSome_iff_eq_none, ← Option.not_isSome_iff_eq_none, h.isSome_get?]
    rw [get?_register_eq, get?_register_eq]
    by_cases hnew : name = layout.name ∧ registry.get? name = none
    · rw [if_pos hnew, if_pos ⟨hnew.1, hfree.mp hnew.2⟩]
    · rw [if_neg hnew, if_neg fun hnew' => hnew ⟨hnew'.1, hfree.mpr hnew'.2⟩]
      exact h.registered name
  · intro now hs hb id
    unfold pending?
    rw [message?_register, message?_register]
    exact h.pending now hs hb id

theorem clear (h : registry.Alike since registry') :
    registry.clear.1.Alike since registry'.clear.1 := by
  constructor
  · intro name
    rw [get?_clear, get?_clear, Option.map_map, Option.map_map]
    exact h.registered name
  · intro now _ _ id
    unfold pending?
    rw [message?_clear, message?_clear]

end Alike

end Registry

/-! ## Submissions and questions -/

namespace Overlay

variable {overlay overlay' : Overlay} {since : Nat} {now : Reading}

theorem enabled_submit (overlay : Overlay) (now : Reading) (type : MessageType)
    (request : Request) : (overlay.submit now type request).value.1.enabled = overlay.enabled := by
  rcases submit_cases overlay now type request with ⟨-, -, hv⟩ | ⟨-, hv⟩ <;> rw [hv]

theorem obscured_submit (overlay : Overlay) (now : Reading) (type : MessageType)
    (request : Request) :
    (overlay.submit now type request).value.1.obscured = overlay.obscured := by
  rcases submit_cases overlay now type request with ⟨-, -, hv⟩ | ⟨-, hv⟩ <;> rw [hv]

/-- What is pending after a queued submission: the message itself, and what was pending before and
is not superseded. -/
theorem pending?_submit {type : MessageType} {request : Request}
    (h : overlay.Queues now type request) (now' : Reading) (id : MessageId) :
    (overlay.submit now type request).value.1.registry.pending? now' id =
      if id = overlay.nextId type request then
        (some (request.toMessage type now)).filter (·.isPending now')
      else if id.stack = overlay.target request ∧ type.Supersedes id.key.type then none
      else overlay.registry.pending? now' id := by
  unfold Registry.pending?
  rw [message?_submit h]
  split
  · rfl
  · rw [Option.filter_map]
    split
    · -- a superseded message is not pending
      rw [Option.map_eq_none_iff, Option.filter_eq_none_iff]
      intro m _
      exact Bool.eq_false_iff.mp (Message.isPending_of_not_isLive rfl now')
    · exact Option.map_id'

/-- The check finds the same in both overlays. -/
theorem hasMessage_congr (h : overlay.registry.Alike since overlay'.registry)
    (hsince : since ≤ now.toNat) (hnow : now.toNat < 2 ^ 63) (stack : String) (type : MessageType)
    (text : String) :
    overlay.hasMessage now stack type text = overlay'.hasMessage now stack type text := by
  have hpending (key : Key) (m : Message) :
      overlay.registry.message? ⟨stack, key⟩ = some m ∧ m.isPending now = true ↔
        overlay'.registry.message? ⟨stack, key⟩ = some m ∧ m.isPending now = true := by
    rw [← Registry.pending?_eq_some_iff, ← Registry.pending?_eq_some_iff,
      h.pending now hsince hnow]
  rw [Bool.eq_iff_iff, hasMessage_iff, hasMessage_iff]
  constructor
  · rintro ⟨key, m, hm, hkey, hp, htext⟩
    obtain ⟨hm, hp⟩ := (hpending key m).mp ⟨hm, hp⟩
    exact ⟨key, m, hm, hkey, hp, htext⟩
  · rintro ⟨key, m, hm, hkey, hp, htext⟩
    obtain ⟨hm, hp⟩ := (hpending key m).mpr ⟨hm, hp⟩
    exact ⟨key, m, hm, hkey, hp, htext⟩

section

variable (h : overlay.registry.Alike since overlay'.registry) (hsince : since ≤ now.toNat)
  (hnow : now.toNat < 2 ^ 63) (type : MessageType) (request : Request)

include h hsince hnow

theorem queues_congr : overlay.Queues now type request ↔ overlay'.Queues now type request := by
  rw [← not_iff_not, not_queues_iff, not_queues_iff, hasMessage_congr h hsince hnow]
  unfold target
  rw [h.resolve_eq]

/-- A submission has the same result in both overlays. -/
theorem submission_congr :
    (overlay.submit now type request).value.2 = (overlay'.submit now type request).value.2 := by
  by_cases hq : overlay.Queues now type request
  · have hq' := (queues_congr h hsince hnow type request).mp hq
    exact hq.trans hq'.symm
  · have hq' := (not_congr (queues_congr h hsince hnow type request)).mp hq
    rw [submit_of_not_queues hq, submit_of_not_queues hq']

/-- A submission leaves both registries alike. -/
theorem alike_submit :
    (overlay.submit now type request).value.1.registry.Alike since
      (overlay'.submit now type request).value.1.registry := by
  by_cases hq : overlay.Queues now type request
  · have hq' := (queues_congr h hsince hnow type request).mp hq
    have htarget : overlay.target request = overlay'.target request := h.resolve_eq _
    have hid : overlay.nextId type request = overlay'.nextId type request := h.next_eq _ type
    constructor
    · intro name
      rw [submit_of_queues hq, submit_of_queues hq']
      show ((overlay.registry.adjust _ _).get? name).map Stack.outline =
        ((overlay'.registry.adjust _ _).get? name).map Stack.outline
      rw [Registry.get?_adjust, Registry.get?_adjust, htarget]
      split
      · rw [Stack.map_outline_enqueue, Stack.map_outline_enqueue, h.registered name]
      · exact h.registered name
    · intro now' hsince' hnow' id
      rw [pending?_submit hq, pending?_submit hq', hid, htarget, h.pending now' hsince' hnow']
  · have hq' := (not_congr (queues_congr h hsince hnow type request)).mp hq
    rw [submit_of_not_queues hq, submit_of_not_queues hq']
    exact h

end

/-! ## Frames -/

section

variable {ρ : Type} (R : Renderer ρ) {renderer : ρ}

/-- A frame keeps the layouts of the stacks and their next numbers. -/
theorem map_outline_get?_draw (h : overlay.registry.WellFormed) (name : String) :
    ((overlay.draw R now renderer).overlay.registry.get? name).map Stack.outline =
      (overlay.registry.get? name).map Stack.outline := by
  cases hs : overlay.registry.get? name with
  | none =>
    have hnone : (overlay.draw R now renderer).overlay.registry.get? name = none := by
      rw [← Option.not_isSome_iff_eq_none, isSome_get?_draw R h, hs]
      exact Bool.false_ne_true
    rw [hnone]
  | some stack =>
    obtain ⟨t, ht, hname, rfl⟩ := exists_turn R ((Registry.get?_iff_mem h.unnamed).mp hs)
    rw [(get?_draw R h).mpr ⟨t, ht, hname, rfl⟩]
    exact congrArg some (Prod.ext (Stack.draw_layout R t.stack (overlay.settings now) t.canvas)
      (Stack.draw_nextSequence R t.stack (overlay.settings now) t.canvas))

/-- A frame, whether it draws or not, leaves exactly the pending messages. -/
theorem message?_draw_eq_none_iff (h : overlay.registry.WellFormed) {id : MessageId} :
    (overlay.draw R now renderer).overlay.registry.message? id = none ↔
      overlay.registry.pending? now id = none := by
  unfold Registry.pending?
  cases hm : overlay.registry.message? id with
  | none => exact iff_of_true (message?_draw_of_none R h hm) rfl
  | some m =>
    rw [Option.filter_some]
    cases hp : m.isPending now with
    | false => exact iff_of_true (message?_draw_of_not_pending R h hm hp) rfl
    | true =>
      obtain ⟨m', hm', -⟩ := message?_draw_of_pending R renderer h hm hp
      rw [hm']
      exact iff_of_false (Option.some_ne_none m') (Option.some_ne_none m)

/-- A frame that does not draw leaves them as they are. -/
theorem message?_draw_of_disabled (h : overlay.registry.WellFormed) (id : MessageId) :
    (({ overlay with enabled := false } : Overlay).draw R now
        renderer).overlay.registry.message? id = overlay.registry.pending? now id := by
  have hwf : ({ overlay with enabled := false } : Overlay).registry.WellFormed := h
  cases hp : overlay.registry.pending? now id with
  | none => exact (message?_draw_eq_none_iff R hwf).mpr hp
  | some m =>
    obtain ⟨hm, hp⟩ := Registry.pending?_eq_some_iff.mp hp
    obtain ⟨m', hm', hkept⟩ := message?_draw_of_pending R renderer hwf hm hp
    have hsame : m' = m := by
      rw [hkept.fields, hkept.picture rfl, Bool.or_false]
    rw [hm', hsame]

end

end Overlay

/-! ## Sessions that look alike -/

namespace Session

variable {ρ β : Type}

/-- Two sessions show the same from a reading on: drawing is on or off in both, the registries are
alike, and the renderers show the same view. -/
structure Alike (view : ρ → β) (since : Nat) (s s' : Session ρ) : Prop where
  enabled : s.overlay.enabled = s'.overlay.enabled
  obscured : s.overlay.obscured = s'.overlay.obscured
  registry : s.overlay.registry.Alike since s'.overlay.registry
  view : view s.renderer = view s'.renderer

/-- The session after a frame that is drawn by this renderer while messages are disabled. -/
def hiddenFrame (s : Session ρ) (R : Renderer ρ) (now : Reading) : Session ρ :=
  s.run [⟨now, .enable false⟩, ⟨now, .draw R⟩, ⟨now, .enable s.overlay.enabled⟩]

/-- If messages are disabled anyway, it is a frame like any other. -/
theorem hiddenFrame_of_disabled {s : Session ρ} (h : s.overlay.enabled = false) (R : Renderer ρ)
    (now : Reading) : s.hiddenFrame R now = s.step ⟨now, .draw R⟩ := by
  obtain ⟨⟨registry, enabled, obscured⟩, renderer, trace⟩ := s
  cases h
  rfl

section

variable {s s' : Session ρ} {R : Renderer ρ} {now : Reading}

theorem wellFormed_hiddenFrame (h : s.WellFormed) (R : Renderer ρ) (now : Reading) :
    (s.hiddenFrame R now).WellFormed :=
  wellFormed_run h _

/-- A hidden frame leaves the pending messages as they are, and no others. -/
theorem message?_hiddenFrame (h : s.WellFormed) (R : Renderer ρ) (now : Reading) (id : MessageId) :
    (s.hiddenFrame R now).message? id = s.overlay.registry.pending? now id :=
  Overlay.message?_draw_of_disabled R h id

variable {view : ρ → β} (hview : R.View view) {since : Nat}

namespace Alike

theorem refl (view : ρ → β) (since : Nat) (s : Session ρ) : s.Alike view since s :=
  ⟨rfl, rfl, .refl since _, rfl⟩

theorem later (h : s.Alike view since s') {since' : Nat} (hsince : since ≤ since') :
    s.Alike view since' s' :=
  { h with registry := h.registry.later hsince }

include hview

/-- A hidden frame leaves a session like the one before it. -/
theorem hiddenFrame (h : s.Alike view since s') (hs' : s'.WellFormed) (hsince : since ≤ now.toNat) :
    s.Alike view now.toNat (s'.hiddenFrame R now) := by
  refine ⟨h.enabled, h.obscured, ⟨?_, ?_⟩, ?_⟩
  · intro name
    have hdisabled : ({ s'.overlay with enabled := false } : Overlay).registry.WellFormed := hs'
    exact (h.registry.registered name).trans (Overlay.map_outline_get?_draw R hdisabled name).symm
  · intro now' hnow hnow' id
    have hmessage : (s'.hiddenFrame R now).overlay.registry.message? id =
        s'.overlay.registry.pending? now id := message?_hiddenFrame hs' R now id
    -- what is pending later was pending in the hidden frame, so it is left
    rw [h.registry.pending now' (Nat.le_trans hsince hnow) hnow' id,
      ← Registry.filter_pending? _ hnow hnow' id, ← hmessage]
    rfl
  · have hswept := Canvas.Swept.draw R s'.overlay now s'.renderer
    exact h.view.trans (hswept.view hview).symm

/-- A step of both sessions leaves them alike. -/
theorem step (h : s.Alike view since s') (hs : s.WellFormed) (hs' : s'.WellFormed) {x : Step ρ}
    (hsince : since ≤ x.now.toNat) (hx : x.now.toNat < 2 ^ 63)
    (hframe : ∀ R', x.operation = .draw R' → R' = R) :
    (s.step x).Alike view x.now.toNat (s'.step x) := by
  have hlater := h.later hsince
  obtain ⟨now, operation⟩ := x
  cases operation with
  | submit type request =>
    refine ⟨?_, ?_, Overlay.alike_submit hlater.registry (Nat.le_refl _) hx type request, h.view⟩
    · show (s.overlay.submit now type request).value.1.enabled =
        (s'.overlay.submit now type request).value.1.enabled
      rw [Overlay.enabled_submit, Overlay.enabled_submit, h.enabled]
    · show (s.overlay.submit now type request).value.1.obscured =
        (s'.overlay.submit now type request).value.1.obscured
      rw [Overlay.obscured_submit, Overlay.obscured_submit, h.obscured]
  | register layout => exact { hlater with registry := hlater.registry.register layout }
  | enable on => exact { hlater with enabled := rfl }
  | obscureLeft pixels =>
    exact { hlater with
      obscured := congrArg (fun margin : Margin => { margin with left := pixels }) h.obscured }
  | obscureTop pixels =>
    exact { hlater with
      obscured := congrArg (fun margin : Margin => { margin with top := pixels }) h.obscured }
  | clear => exact { hlater with registry := hlater.registry.clear }
  | draw R' =>
    obtain rfl := hframe R' rfl
    obtain ⟨hoverlay, -, hafter⟩ := Overlay.draw_congr hview h.enabled h.obscured
      (h.registry.views_eq hsince hx hs.unnamed hs'.unnamed) h.view
    show Alike view now.toNat ⟨(s.overlay.draw R' now s.renderer).overlay, _, _⟩
      ⟨(s'.overlay.draw R' now s'.renderer).overlay, _, _⟩
    rw [hoverlay]
    exact ⟨rfl, rfl, .refl _ _, hafter⟩

end Alike

end

/-! ## Runs with hidden frames -/

/-- What happens in a run that is watched: a step, a question whether a message is still to be seen,
or a hidden frame. -/
inductive Moment (ρ : Type)
  | step (x : Step ρ)
  | ask (now : Reading) (stack : String) (type : MessageType) (text : String)
  | hidden (now : Reading)

namespace Moment

/-- The clock reading. -/
def now : Moment ρ → Reading
  | step x => x.now
  | ask now _ _ _ => now
  | hidden now => now

/-- The moment is not a hidden frame. -/
def isVisible : Moment ρ → Bool
  | hidden _ => false
  | _ => true

end Moment

/-- What is seen of a run: the placements of a frame, the result of a submission, or the answer to a
question. -/
inductive Observation
  | placed (placements : List Placement)
  | submitted (result : Submission)
  | answered (found : Bool)

/-- What is seen of a moment. -/
def observed (s : Session ρ) : Moment ρ → List Observation
  | .step ⟨now, .submit type request⟩ => [.submitted (s.overlay.submit now type request).value.2]
  | .step ⟨now, .draw R⟩ => [.placed (s.overlay.draw R now s.renderer).report.placements]
  | .ask now stack type text => [.answered (s.overlay.hasMessage now stack type text)]
  | _ => []

/-- The session after a moment; hidden frames are drawn by this renderer. -/
def pass (R : Renderer ρ) (s : Session ρ) : Moment ρ → Session ρ
  | .step x => s.step x
  | .ask _ _ _ _ => s
  | .hidden now => s.hiddenFrame R now

/-- The session after some moments. -/
def play (R : Renderer ρ) (s : Session ρ) (moments : List (Moment ρ)) : Session ρ :=
  moments.foldl (pass R) s

/-- What is seen of some moments, one after the other. -/
def observations (R : Renderer ρ) : Session ρ → List (Moment ρ) → List Observation
  | _, [] => []
  | s, moment :: moments => s.observed moment ++ observations R (s.pass R moment) moments

theorem wellFormed_pass {s : Session ρ} (h : s.WellFormed) (R : Renderer ρ) (moment : Moment ρ) :
    (s.pass R moment).WellFormed := by
  cases moment with
  | step x => exact wellFormed_step s x h
  | ask now stack type text => exact h
  | hidden now => exact wellFormed_hiddenFrame h R now

theorem wellFormed_play {s : Session ρ} (h : s.WellFormed) (R : Renderer ρ)
    (moments : List (Moment ρ)) : (s.play R moments).WellFormed := by
  induction moments generalizing s with
  | nil => exact h
  | cons moment moments ih => exact ih (wellFormed_pass h R moment)

section

variable {s s' : Session ρ} {R : Renderer ρ} {view : ρ → β} (hview : R.View view) {since : Nat}

include hview

/-- The same is seen of a moment in both sessions. -/
theorem Alike.observed_eq (h : s.Alike view since s') (hs : s.WellFormed) (hs' : s'.WellFormed)
    {moment : Moment ρ} (hsince : since ≤ moment.now.toNat) (hnow : moment.now.toNat < 2 ^ 63)
    (hframe : ∀ now R', moment = .step ⟨now, .draw R'⟩ → R' = R) :
    s.observed moment = s'.observed moment := by
  cases moment with
  | step x =>
    obtain ⟨now, operation⟩ := x
    cases operation with
    | submit type request =>
      exact congrArg (fun result => [Observation.submitted result])
        (Overlay.submission_congr h.registry hsince hnow type request)
    | draw R' =>
      obtain rfl := hframe now R' rfl
      obtain ⟨-, hplacements, -⟩ := Overlay.draw_congr hview h.enabled h.obscured
        (h.registry.views_eq hsince hnow hs.unnamed hs'.unnamed) h.view
      exact congrArg (fun placements => [Observation.placed placements]) hplacements
    | _ => rfl
  | ask now stack type text =>
    exact congrArg (fun found => [Observation.answered found])
      (Overlay.hasMessage_congr h.registry hsince hnow stack type text)
  | hidden now => rfl

/-- Of sessions that are alike the same is seen, with and without hidden frames. -/
theorem Alike.observations_eq (h : s.Alike view since s') (hs : s.WellFormed) (hs' : s'.WellFormed)
    {moments : List (Moment ρ)}
    (hordered : moments.Pairwise fun a b => a.now.toNat ≤ b.now.toNat)
    (hsince : ∀ a ∈ moments, since ≤ a.now.toNat) (hbounded : ∀ a ∈ moments, a.now.toNat < 2 ^ 63)
    (hframes : ∀ now R', .step ⟨now, .draw R'⟩ ∈ moments → R' = R) :
    observations R s (moments.filter Moment.isVisible) = observations R s' moments := by
  induction moments generalizing s s' since with
  | nil => rfl
  | cons moment moments ih =>
    obtain ⟨hfirst, hordered⟩ := List.pairwise_cons.mp hordered
    have hrest {s s' : Session ρ} (h : s.Alike view moment.now.toNat s') (hs : s.WellFormed)
        (hs' : s'.WellFormed) :
        observations R s (moments.filter Moment.isVisible) = observations R s' moments :=
      ih h hs hs' hordered hfirst (fun a ha => hbounded a (List.mem_cons_of_mem _ ha))
        fun now R' hR' => hframes now R' (List.mem_cons_of_mem _ hR')
    have hsince := hsince moment List.mem_cons_self
    have hnow := hbounded moment List.mem_cons_self
    have hframe : ∀ now R', moment = .step ⟨now, .draw R'⟩ → R' = R := fun now R' hR' =>
      hframes now R' (hR' ▸ List.mem_cons_self)
    have hseen := h.observed_eq hview hs hs' hsince hnow hframe
    have hafter := wellFormed_pass hs R moment
    have hafter' := wellFormed_pass hs' R moment
    cases moment with
    | step x =>
      refine congrArg₂ (· ++ ·) hseen (hrest (h.step hview hs hs' hsince hnow ?_) hafter hafter')
      intro R' hR'
      obtain ⟨now, operation⟩ := x
      cases hR'
      exact hframe now R' rfl
    | ask now stack type text =>
      exact congrArg₂ (· ++ ·) hseen (hrest (h.later hsince) hafter hafter')
    | hidden now => exact hrest (h.hiddenFrame hview hs' hsince) hs hafter'

end

/-- Hidden frames are not seen. A run shows the same placements, results of submissions and answers
without its hidden frames. A hidden frame, which is any frame if messages are disabled anyway, makes
no calls but to destroy textures; of the stored messages it leaves the pending ones, as they are,
and these are the ones that a frame that draws would have left. -/
theorem hidden_frames_invisible (screen : Headless) {moments : List (Moment Headless)}
    (hordered : moments.Pairwise fun a b => a.now.toNat ≤ b.now.toNat)
    (hbounded : ∀ a ∈ moments, a.now.toNat < 2 ^ 63)
    (hframes : ∀ now R, .step ⟨now, .draw R⟩ ∈ moments → R = Headless.renderer) :
    observations Headless.renderer (start screen) (moments.filter Moment.isVisible) =
        observations Headless.renderer (start screen) moments ∧
      ∀ past now future, moments = past ++ .hidden now :: future →
        let s := (start screen).play Headless.renderer past
        let after := s.hiddenFrame Headless.renderer now
        let drawing : Overlay := { s.overlay with enabled := true }
        let drawn := (drawing.draw Headless.renderer now s.renderer).overlay
        (s.overlay.enabled = false → after = s.step ⟨now, .draw Headless.renderer⟩) ∧
          (∃ trace, after.trace = s.trace ++ trace ∧
            ∀ c ∈ TraceEntry.calls trace, ∃ texture, c.1 = .destroy texture) ∧
          (∀ id m, s.message? id = some m →
            after.message? id = if m.isPending now then some m else none) ∧
          ∀ id, after.message? id = none ↔ drawn.registry.message? id = none := by
  have hwf : (start screen).WellFormed := wellFormed_start screen
  constructor
  · exact (Alike.refl Headless.view 0 (start screen)).observations_eq Headless.view_renderer hwf hwf
      hordered (fun _ _ => Nat.zero_le _) hbounded hframes
  · rintro past now future -
    intro s after drawing drawn
    have hs : s.WellFormed := wellFormed_play hwf Headless.renderer past
    have hafter : ∀ id, after.message? id = s.overlay.registry.pending? now id :=
      message?_hiddenFrame hs Headless.renderer now
    refine ⟨fun hdisabled => hiddenFrame_of_disabled hdisabled _ now, ⟨_, rfl, ?_⟩, ?_, ?_⟩
    · have hswept := Canvas.Swept.draw Headless.renderer s.overlay now s.renderer
      exact hswept.calls fun c hc => nomatch hc
    · intro id m hm
      have hstored : s.overlay.registry.message? id = some m := hm
      rw [hafter, Registry.pending?, hstored, Option.filter_some]
    · intro id
      have hdrawing : drawing.registry.WellFormed := hs
      rw [hafter]
      exact (Overlay.message?_draw_eq_none_iff Headless.renderer hdrawing).symm

/-- A message is queued, hidden, drawn, and removed by another hidden frame. The same is seen
without the hidden frames, and the first one leaves the message as it was queued. -/
theorem banner_hidden :
    let screen : Headless := { viewport := ⟨Binary.ofNat 640, Binary.ofNat 480⟩ }
    let banner : Request := { text := "paused", duration := 1000, color := Color.green }
    let queue : Moment Headless := .step ⟨0, .submit .typeless banner⟩
    let frame : Moment Headless := .step ⟨600, .draw Headless.renderer⟩
    let ask : Moment Headless := .ask 2000 "" .typeless "paused"
    let s := (start screen).play Headless.renderer [queue]
    observations Headless.renderer (start screen) [queue, frame, ask] =
        observations Headless.renderer (start screen)
          [queue, .hidden 500, frame, .hidden 2000, ask] ∧
      (s.hiddenFrame Headless.renderer 500).message? ⟨"", ⟨.typeless, 0⟩⟩ =
        some (banner.toMessage .typeless 0) := by
  intro screen banner queue frame ask s
  have hordered : [queue, .hidden 500, frame, .hidden 2000, ask].Pairwise
      fun a b => a.now.toNat ≤ b.now.toNat := by decide
  have hbounded : ∀ a ∈ [queue, .hidden 500, frame, .hidden 2000, ask],
      a.now.toNat < 2 ^ 63 := by decide
  have hframes : ∀ now R, .step ⟨now, .draw R⟩ ∈ [queue, .hidden 500, frame, .hidden 2000, ask] →
      R = Headless.renderer := by
    intro now R hR
    simp only [queue, frame, ask, List.mem_cons, Moment.step.injEq, Step.mk.injEq,
      Operation.draw.injEq, reduceCtorEq, and_false, false_or, or_false, List.not_mem_nil] at hR
    exact hR.2
  obtain ⟨hseen, hhidden⟩ := hidden_frames_invisible screen hordered hbounded hframes
  refine ⟨hseen, ?_⟩
  obtain ⟨-, -, hkept, -⟩ := hhidden [queue] 500 [frame, .hidden 2000, ask] rfl
  have hstored : s.message? ⟨"", ⟨.typeless, 0⟩⟩ = some (banner.toMessage .typeless 0) := rfl
  have hpending : (banner.toMessage .typeless 0).isPending 500 = true := by decide
  rw [hkept _ _ hstored, if_pos hpending]

end Session

end OnScreen
