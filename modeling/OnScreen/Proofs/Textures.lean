import Mathlib.Data.List.Induction
import OnScreen.Proofs.Headless
import OnScreen.Proofs.Session

/-!
# No texture is lost or destroyed twice

Every texture that a renderer has handed out is held by one stored message, waits for a frame to
destroy it, or was destroyed.

Results:
* `Registry.textures_perm`: the held textures are determined by what is stored under each id.
* `Custody.steps`, `Custody.run`: what single calls keep is kept by every run.
* `custody_balance`: what was uploaded is what was destroyed and what is held.
* `textures_balanced`: this, and what follows for a headless renderer, for every run.
-/

namespace OnScreen

/-! ## The textures of a registry -/

namespace Registry

variable {registry registry' : Registry}

theorem textures_eq_filterMap_ids (h : registry.WellFormed) :
    registry.textures =
      registry.ids.filterMap fun id => (registry.message? id).bind Message.textureId? := by
  rw [textures_eq]
  unfold textureIds ids
  rw [List.filterMap_flatMap, List.filterMap_flatMap]
  apply List.flatMap_congr
  rintro ⟨name, stack⟩ he
  unfold Stack.toList OrderedMap.values OrderedMap.keys
  rw [List.filterMap_map, List.map_map, List.filterMap_map]
  apply List.filterMap_congr
  rintro ⟨key, m⟩ hm
  have hstored : registry.message? ⟨name, key⟩ = some m := by
    rw [message?_of_get? ((get?_iff_mem h.unnamed).mpr he), OrderedMap.find?_eq_some_iff]
    exact hm
  show m.textureId? = (registry.message? ⟨name, key⟩).bind Message.textureId?
  rw [hstored]
  rfl

/-- The textures that the messages of a registry hold are determined by what is stored under each
id. -/
theorem textures_perm (h : registry.WellFormed) (h' : registry'.WellFormed)
    (hids : ∀ id, (registry'.message? id).bind Message.textureId? =
      (registry.message? id).bind Message.textureId?) :
    registry'.textures.Perm registry.textures := by
  rw [textures_eq_filterMap_ids h, textures_eq_filterMap_ids h', funext hids]
  have hfilter : ∀ ids : List MessageId,
      ids.filterMap (fun id => (registry.message? id).bind Message.textureId?) =
        (ids.filter fun id => ((registry.message? id).bind Message.textureId?).isSome).filterMap
          fun id => (registry.message? id).bind Message.textureId? := by
    intro ids
    rw [List.filterMap_filter]
    apply List.filterMap_congr
    intro id _
    cases (registry.message? id).bind Message.textureId? <;> rfl
  rw [hfilter registry.ids, hfilter registry'.ids]
  apply List.Perm.filterMap
  rw [List.perm_ext_iff_of_nodup (h'.nodup_ids.filter _) (h.nodup_ids.filter _)]
  intro id
  rw [List.mem_filter, List.mem_filter, h.mem_ids_iff, h'.mem_ids_iff]
  -- an id with a texture is stored in both
  have hstored : ∀ r : Registry, ((r.message? id).bind Message.textureId?).isSome = true →
      (r.message? id).isSome = true := by
    intro r hr
    cases hm : r.message? id with
    | none =>
      rw [hm] at hr
      cases hr
    | some m => rfl
  constructor
  · rintro ⟨-, ht⟩
    exact ⟨hstored registry ht, ht⟩
  · rintro ⟨-, ht⟩
    exact ⟨hstored registry' (by rw [hids id]; exact ht), ht⟩

theorem textures_eq_nil (h : registry.WellFormed) (hnone : ∀ id, registry.message? id = none) :
    registry.textures = [] := by
  rw [textures_eq_filterMap_ids h, List.filterMap_eq_nil_iff]
  intro id _
  rw [hnone]
  rfl

theorem orphans_register (registry : Registry) (layout : StackLayout) :
    (registry.register layout).value.1.orphans = registry.orphans := by
  unfold register
  split
  · rfl
  · split <;> rfl

theorem orphans_adjust (registry : Registry) (name : String) (f : Stack → Stack) :
    (registry.adjust name f).orphans = registry.orphans := by
  unfold adjust
  split <;> rfl

theorem textures_register (h : registry.WellFormed) (layout : StackLayout) :
    (registry.register layout).value.1.textures.Perm registry.textures := by
  apply textures_perm h (h.register layout)
  intro id
  rw [message?_register]

end Registry

/-- A submission leaves the held textures as they are: the icon of a new message is not uploaded. -/
theorem Overlay.textures_submit {overlay : Overlay} (h : overlay.registry.WellFormed)
    (now : Reading) (type : MessageType) (request : Request) :
    (overlay.submit now type request).value.1.registry.textures.Perm
      overlay.registry.textures := by
  by_cases hq : overlay.Queues now type request
  · apply Registry.textures_perm h (wellFormed_submit h now type request)
    intro id
    rw [message?_submit hq]
    split
    · rename_i hid
      have hfree : overlay.registry.message? id = none := by
        rw [hid]
        exact h.message?_next _ _
      rw [hfree]
      show (Picture.ofIcon? request.icon).texture?.map Texture.id = none
      cases request.icon <;> rfl
    · cases overlay.registry.message? id with
      | none => rfl
      | some m =>
        rw [Option.map_some]
        split <;> rfl
  · rw [submit_of_not_queues hq]

theorem Overlay.orphans_submit (overlay : Overlay) (now : Reading) (type : MessageType)
    (request : Request) :
    (overlay.submit now type request).value.1.registry.orphans = overlay.registry.orphans := by
  by_cases hq : overlay.Queues now type request
  · rw [submit_of_queues hq]
    exact Registry.orphans_adjust _ _ _
  · rw [submit_of_not_queues hq]

/-! ## Events outside of frames -/

theorem Overlay.events_submit (overlay : Overlay) (now : Reading) (type : MessageType)
    (request : Request) :
    ∀ e ∈ (overlay.submit now type request).events, ¬ e.IsUnknownTexture := by
  have hresolve : ∀ e ∈ overlay.registry.resolveEvents request.stack, ¬ e.IsUnknownTexture := by
    unfold Registry.resolveEvents
    split <;> simp [Event.IsUnknownTexture]
  have henqueue : ∀ stack m, ∀ e ∈ enqueueEvents stack m, ¬ e.IsUnknownTexture := by
    intro stack m
    unfold enqueueEvents
    split
    · dsimp only
      split <;> simp [Event.IsUnknownTexture]
    · simp
  intro e he
  unfold submit at he
  dsimp only at he
  split at he
  · rcases List.mem_append.mp he with he | he
    · exact hresolve e he
    · rw [List.mem_singleton] at he
      rintro ⟨t, rfl⟩
      cases he
  · rcases List.mem_append.mp he with he | he
    · exact hresolve e he
    · exact henqueue _ _ e he

theorem Registry.events_register (registry : Registry) (layout : StackLayout) :
    ∀ e ∈ (registry.register layout).events, ¬ e.IsUnknownTexture := by
  unfold register
  split
  · simp [Event.IsUnknownTexture]
  · split <;> simp [Event.IsUnknownTexture]

/-! ## Runs -/

namespace Session

variable {ρ : Type}

/-- The renderer with everything that happened. -/
def canvas (s : Session ρ) : Canvas ρ :=
  ⟨s.renderer, s.trace⟩

/-- The textures that stored messages hold, and those that wait for a frame to destroy them. -/
def held (s : Session ρ) : List TextureId :=
  s.overlay.registry.textures ++ s.overlay.registry.orphans

end Session

namespace Custody

variable {ρ : Type} {concerns : Renderer ρ → Prop} {Holds : Canvas ρ → List TextureId → Prop}

theorem step (h : Custody concerns Holds) (s : Session ρ) (x : Step ρ) (hwf : s.WellFormed)
    (hx : ∀ R, x.operation = .draw R → concerns R) (hs : Holds s.canvas s.held) :
    Holds (s.step x).canvas (s.step x).held := by
  obtain ⟨now, operation⟩ := x
  cases operation with
  | submit type request =>
    refine h.reports (s.overlay.events_submit now type request) (h.perm ?_ hs)
    have htextures := Overlay.textures_submit hwf now type request
    have horphans := s.overlay.orphans_submit now type request
    show List.Perm _ (_ ++ (s.overlay.submit now type request).value.1.registry.orphans)
    rw [horphans]
    exact htextures.symm.append_right _
  | register layout =>
    refine h.reports (s.overlay.registry.events_register layout) (h.perm ?_ hs)
    have horphans := s.overlay.registry.orphans_register layout
    show List.Perm _ (_ ++ (s.overlay.registry.register layout).value.1.orphans)
    rw [horphans]
    exact (Registry.textures_register hwf layout).symm.append_right _
  | enable on => exact hs
  | obscureLeft pixels => exact hs
  | obscureTop pixels => exact hs
  | clear =>
    refine h.reports ?_ (h.perm ?_ hs)
    · intro e he
      rintro ⟨t, rfl⟩
      cases List.mem_singleton.mp he
    · have htextures : s.overlay.registry.clear.1.textures = [] :=
        Registry.textures_eq_nil hwf.clear (Registry.message?_clear _)
      show List.Perm _ (s.overlay.registry.clear.1.textures ++ _)
      rw [htextures]
      exact List.perm_append_comm
  | draw R =>
    have hstart : Holds ⟨s.renderer, s.trace ++ []⟩
        (s.overlay.registry.orphans ++ s.overlay.registry.textures) := by
      rw [List.append_nil]
      exact h.perm List.perm_append_comm hs
    have hdrawn := (h.after s.trace).draw (hx R rfl) s.overlay now s.renderer hstart
    show Holds _ (_ ++ (s.overlay.draw R now s.renderer).overlay.registry.orphans)
    rw [Overlay.draw_orphans, List.append_nil]
    exact hdrawn

/-- What holds before some steps, and is kept by every report and call of the renderers concerned,
holds after them. -/
theorem steps (h : Custody concerns Holds) {s : Session ρ} (hwf : s.WellFormed)
    (hs : Holds s.canvas s.held) (steps : List (Step ρ))
    (hsteps : ∀ x ∈ steps, ∀ R, x.operation = .draw R → concerns R) :
    Holds (s.run steps).canvas (s.run steps).held := by
  induction steps generalizing s with
  | nil => exact hs
  | cons x steps ih =>
    obtain ⟨hx, hrest⟩ := List.forall_mem_cons.mp hsteps
    exact ih (Session.wellFormed_step s x hwf) (h.step s x hwf hx hs) hrest

/-- What holds at the start holds after every run of frames on the renderers concerned. -/
theorem run (h : Custody concerns Holds) {renderer : ρ} (hstart : Holds { renderer := renderer } [])
    (steps : List (Step ρ)) (hsteps : ∀ x ∈ steps, ∀ R, x.operation = .draw R → concerns R) :
    Holds ((Session.start renderer).run steps).canvas
      ((Session.start renderer).run steps).held :=
  h.steps (Session.wellFormed_start renderer) hstart steps hsteps

end Custody

/-! ## The balance of uploaded and destroyed textures -/

namespace TraceEntry

/-- The textures that uploads were answered with, in order. -/
def uploaded (trace : List TraceEntry) : List TextureId :=
  trace.filterMap fun
    | call (.upload _) texture => texture
    | _ => none

/-- The textures that were to be destroyed, in order. -/
def destroyed (trace : List TraceEntry) : List TextureId :=
  trace.filterMap fun
    | call (.destroy texture) _ => some texture
    | _ => none

variable {ρ : Type}

theorem uploaded_append (trace trace' : List TraceEntry) :
    uploaded (trace ++ trace') = uploaded trace ++ uploaded trace' :=
  List.filterMap_append

theorem destroyed_append (trace trace' : List TraceEntry) :
    destroyed (trace ++ trace') = destroyed trace ++ destroyed trace' :=
  List.filterMap_append

theorem uploaded_events (events : List Event) : uploaded (events.map event) = [] := by
  unfold uploaded
  rw [List.filterMap_map, List.filterMap_eq_nil_iff]
  intro e _
  rfl

theorem destroyed_events (events : List Event) : destroyed (events.map event) = [] := by
  unfold destroyed
  rw [List.filterMap_map, List.filterMap_eq_nil_iff]
  intro e _
  rfl

/-- A call adds to the uploaded and destroyed textures no more than its own. -/
theorem uploaded_perform (R : Renderer ρ) (canvas : Canvas ρ) (c : Call) :
    uploaded (canvas.perform R c).trace =
      uploaded canvas.trace ++ uploaded [call c (R.perform canvas.renderer c).texture] := by
  have hentries : uploaded (R.perform canvas.renderer c).entries = [] :=
    (Response.filterMap_entries _ fun _ => rfl).trans (uploaded_events _)
  unfold Canvas.perform
  rw [uploaded_append, ← List.singleton_append, uploaded_append, hentries, List.append_nil]

theorem destroyed_perform (R : Renderer ρ) (canvas : Canvas ρ) (c : Call) :
    destroyed (canvas.perform R c).trace =
      destroyed canvas.trace ++ destroyed [call c (R.perform canvas.renderer c).texture] := by
  have hentries : destroyed (R.perform canvas.renderer c).entries = [] :=
    (Response.filterMap_entries _ fun _ => rfl).trans (destroyed_events _)
  unfold Canvas.perform
  rw [destroyed_append, ← List.singleton_append, destroyed_append, hentries, List.append_nil]

end TraceEntry

open TraceEntry

/-- What was uploaded is what was destroyed and what is held, whatever the renderers answer. -/
theorem custody_balance {ρ : Type} :
    Custody (fun _ : Renderer ρ => True) fun canvas held =>
      (uploaded canvas.trace).Perm (destroyed canvas.trace ++ held) where
  perm hheld hc := hc.trans (hheld.append_left _)
  report event _ hc := by
    unfold Canvas.report
    have hup : uploaded [.event event] = [] := uploaded_events [event]
    have hdestroy : destroyed [.event event] = [] := destroyed_events [event]
    rw [uploaded_append, destroyed_append, hup, hdestroy, List.append_nil, List.append_nil]
    exact hc
  call {R canvas held} _ c hup hdestroy _ hc := by
    have hno : ∀ texture, uploaded [.call c texture] = [] ∧ destroyed [.call c texture] = [] := by
      intro texture
      cases c with
      | upload icon => exact absurd rfl (hup icon)
      | destroy t => exact absurd rfl (hdestroy t)
      | _ => exact ⟨rfl, rfl⟩
    rw [uploaded_perform, destroyed_perform, (hno _).1, (hno _).2, List.append_nil, List.append_nil]
    exact hc
  upload {R canvas held} _ icon hc := by
    show List.Perm (uploaded (canvas.perform R (.upload icon)).trace) _
    rw [uploaded_perform]
    have hup : uploaded [.call (.upload icon) (R.perform canvas.renderer (.upload icon)).texture] =
        (canvas.upload R icon).2.toList := by
      unfold Canvas.upload uploaded
      rw [List.filterMap_cons]
      cases (R.perform canvas.renderer (.upload icon)).texture <;> rfl
    have hdestroy : destroyed (canvas.upload R icon).1.trace = destroyed canvas.trace := by
      show destroyed (canvas.perform R (.upload icon)).trace = _
      rw [destroyed_perform]
      exact List.append_nil _
    rw [hup, hdestroy]
    have happend := (hc.append_right (canvas.upload R icon).2.toList).trans List.perm_append_comm
    exact happend.trans (List.perm_append_comm_assoc _ _ _)
  destroy {R canvas held} _ t hc := by
    rw [uploaded_perform, destroyed_perform]
    have hup : uploaded
        [.call (.destroy t) (R.perform canvas.renderer (.destroy t)).texture] = [] := rfl
    have hdestroy : destroyed
        [.call (.destroy t) (R.perform canvas.renderer (.destroy t)).texture] = [t] := rfl
    rw [hup, hdestroy, List.append_nil, List.append_assoc]
    exact hc

/-! ## All runs -/

/-- The number of held textures is that of the stored messages with a texture and of the textures
that wait to be destroyed. -/
theorem Session.length_held {ρ : Type} (s : Session ρ) :
    s.held.length =
      (s.overlay.registry.messages.filter fun m => m.picture.texture?.isSome).length +
        s.overlay.registry.orphans.length := by
  unfold held Registry.textures
  rw [List.length_append, List.length_filterMap_eq_countP, List.countP_eq_length_filter]
  congr 3
  funext m
  exact Option.isSome_map

/-- No texture is lost or destroyed twice. Whatever the renderers answer, at every point of a run
the uploaded textures are the destroyed ones, those that stored messages hold and those that wait to
be destroyed; and nothing waits after a frame. If all frames are drawn by one headless renderer, it
is never told to destroy a texture it does not know, its live textures are as many as the messages
with a texture and the waiting ones, and none is live after the overlay was cleared and a frame
drawn. -/
theorem textures_balanced :
    (∀ (ρ : Type) (renderer : ρ) (steps : List (Step ρ)),
      let s := (Session.start renderer).run steps
      let registry := s.overlay.registry
      (uploaded s.trace).Perm (destroyed s.trace ++ (registry.textures ++ registry.orphans)) ∧
        ∀ R now, (s.step ⟨now, .draw R⟩).overlay.registry.orphans = []) ∧
    ∀ (screen : Headless) (steps : List (Step Headless)), screen.liveTextures = [] →
      (∀ x ∈ steps, ∀ R, x.operation = .draw R → R = Headless.renderer) →
      let s := (Session.start screen).run steps
      let registry := s.overlay.registry
      (∀ t, .event (.unknownTexture t) ∉ s.trace) ∧
        s.renderer.liveTextures.length =
          (registry.messages.filter fun m => m.picture.texture?.isSome).length +
            registry.orphans.length ∧
        ∀ now now', (s.run [⟨now, .clear⟩, ⟨now', .draw Headless.renderer⟩]).renderer.liveTextures =
          [] := by
  constructor
  · intro ρ renderer steps s registry
    exact ⟨custody_balance.run (List.Perm.refl []) steps fun _ _ _ _ => trivial, fun _ _ => rfl⟩
  · intro screen steps hscreen hsteps s registry
    have hstart : Owns { renderer := screen } [] := by
      refine ⟨?_, ?_, ?_, fun t => List.not_mem_nil⟩
      · rw [hscreen]
      · rw [hscreen]
        exact List.nodup_nil
      · rw [hscreen]
        intro t ht
        cases ht
    have howns := custody_headless.run hstart steps hsteps
    refine ⟨howns.known, howns.live.length_eq.trans s.length_held, ?_⟩
    intro now now'
    have hwf : s.WellFormed := Session.wellFormed_run (Session.wellFormed_start screen) steps
    have hcleared : (s.step ⟨now, .clear⟩).WellFormed := Session.wellFormed_step s _ hwf
    have hlast := custody_headless.run hstart
      (steps ++ [⟨now, .clear⟩, ⟨now', .draw Headless.renderer⟩]) ?_
    · have hheld : (s.run [⟨now, .clear⟩, ⟨now', .draw Headless.renderer⟩]).held = [] := by
        have hafter := Session.wellFormed_step _ ⟨now', .draw Headless.renderer⟩ hcleared
        have htextures := Registry.textures_eq_nil hafter fun id =>
          Overlay.message?_draw_of_none Headless.renderer hcleared (Registry.message?_clear _ id)
        show Registry.textures _ ++ [] = []
        rw [List.append_nil]
        exact htextures
      rw [Session.run_append] at hlast
      have hlive := hlast.live
      rw [hheld] at hlive
      exact hlive.eq_nil
    · intro x hx R hR
      rcases List.mem_append.mp hx with hx | hx
      · exact hsteps x hx R hR
      · simp only [List.mem_cons, List.not_mem_nil, or_false] at hx
        rcases hx with rfl | rfl
        · cases hR
        · cases hR
          rfl

/-- A white pixel. -/
def pixel : Icon where
  width := 1
  height := 1
  rgba := ⟨#[255, 255, 255, 255]⟩

/-- A message with an icon is queued and drawn. -/
def pixelDrawn : List (Step Headless) :=
  [⟨0, .submit .typeless
      { text := "pixel", duration := 1000, color := Color.green, icon := some pixel }⟩,
    ⟨0, .draw Headless.renderer⟩]

/-- The texture of the message is live until the overlay is cleared and a frame drawn. -/
theorem pixel_destroyed :
    let screen : Headless := { viewport := ⟨Binary.ofNat 640, Binary.ofNat 480⟩ }
    ((Session.start screen).run pixelDrawn).renderer.liveTextures.length = 1 ∧
      (((Session.start screen).run pixelDrawn).run
        [⟨1, .clear⟩, ⟨2, .draw Headless.renderer⟩]).renderer.liveTextures = [] := by
  intro screen
  have hrenderer : ∀ x ∈ pixelDrawn, ∀ R, x.operation = .draw R → R = Headless.renderer := by
    intro x hx R hR
    unfold pixelDrawn at hx
    simp only [List.mem_cons, List.not_mem_nil, or_false] at hx
    rcases hx with rfl | rfl
    · cases hR
    · cases hR
      rfl
  obtain ⟨-, hcount, hcleared⟩ := textures_balanced.2 screen pixelDrawn rfl hrenderer
  constructor
  · rw [hcount]
    decide +kernel
  · exact hcleared 1 2

end OnScreen
