import OnScreen.Proofs.Isolation
import OnScreen.Proofs.Mirroring
import OnScreen.Proofs.Registration
import OnScreen.Proofs.Rendering

/-!
# Clearing renews an overlay

An overlay that was cleared goes on like a new one with the same stacks and settings, although its
stacks keep counting and the textures of the dropped messages are still to be destroyed. The next
frame destroys them before anything else; apart from that, only the textures that are given out
later have other numbers.

Results:
* `Registry.WellFormed.find?_layouts`: what a registry is made of.
* `Registry.Like.renewed`: a cleared registry and a new one are alike.
* `Session.GoesOnLike`: what it is to go on like another session.
* `Headless.continues_mirror`: headless renderers with the same settings are used alike.
* `Session.clear_renews`: whole runs.
-/

namespace OnScreen

/-! ## The stacks of a registry -/

namespace Registry

variable {registry : Registry}

/-- The layouts of the named stacks, in the order of their names. -/
def layouts (registry : Registry) : List StackLayout :=
  registry.named.values.map Stack.layout

/-- The layouts are those of the stacks that are found under their names. -/
theorem WellFormed.mem_layouts_iff (h : registry.WellFormed) {layout : StackLayout} :
    layout ∈ registry.layouts ↔
      layout.name ≠ "" ∧ (registry.get? layout.name).map Stack.layout = some layout := by
  unfold layouts OrderedMap.values
  rw [List.map_map, List.mem_map]
  constructor
  · rintro ⟨⟨name, stack⟩, he, rfl⟩
    have hfind : registry.named.find? name = some stack := OrderedMap.find?_eq_some_iff.mpr he
    have hne : name ≠ "" := by
      rintro rfl
      rw [h.unnamed] at hfind
      cases hfind
    have hs : registry.get? name = some stack := (get?_of_ne hne).trans hfind
    have hname : stack.layout.name = name := h.name name stack hs
    show stack.layout.name ≠ "" ∧ (registry.get? stack.layout.name).map Stack.layout = _
    rw [hname, hs]
    exact ⟨hne, rfl⟩
  · rintro ⟨hne, hmap⟩
    obtain ⟨stack, hs, hlayout⟩ := Option.map_eq_some_iff.mp hmap
    rw [get?_of_ne hne] at hs
    exact ⟨(layout.name, stack), OrderedMap.find?_eq_some_iff.mp hs, hlayout⟩

/-- In a list of the layouts, in whichever order, a name leads to the layout of its stack. -/
theorem WellFormed.find?_layouts (h : registry.WellFormed) {layouts : List StackLayout}
    (hlayouts : ∀ layout, layout ∈ layouts ↔ layout ∈ registry.layouts) {name : String}
    (hne : name ≠ "") :
    layouts.find? (fun layout => decide (layout.name = name)) =
      (registry.get? name).map Stack.layout := by
  cases hfind : layouts.find? fun layout => decide (layout.name = name) with
  | some layout =>
    have hname : layout.name = name := of_decide_eq_true (List.find?_some hfind :)
    have hmem := (hlayouts layout).mp (List.mem_of_find?_eq_some hfind)
    rw [h.mem_layouts_iff, hname] at hmem
    exact hmem.2.symm
  | none =>
    cases hs : registry.get? name with
    | none => rfl
    | some stack =>
      have hname : stack.layout.name = name := h.name name stack hs
      have hmem : stack.layout ∈ layouts := by
        rw [hlayouts, h.mem_layouts_iff, hname, hs]
        exact ⟨hne, rfl⟩
      exact absurd (decide_eq_true hname) (List.find?_eq_none.mp hfind _ hmem)

end Registry

namespace Overlay

/-- A new overlay in which stacks were registered and the settings were made. -/
def fresh (layouts : List StackLayout) (enabled : Bool) (obscured : Margin) : Overlay :=
  { (({} : Overlay).registerAll layouts).value with enabled := enabled, obscured := obscured }

theorem orphans_registerAll (overlay : Overlay) (layouts : List StackLayout) :
    (overlay.registerAll layouts).value.registry.orphans = overlay.registry.orphans := by
  induction layouts generalizing overlay with
  | nil => rfl
  | cons layout layouts ih => exact (ih _).trans (Registry.orphans_register overlay.registry layout)

end Overlay

/-- The default stack keeps the layout that it has from the start. -/
theorem Session.layout_defaultStack {ρ : Type} (initial : ρ) (steps : List (Step ρ)) :
    ((start initial).run steps).overlay.registry.defaultStack.layout = StackLayout.named "" :=
  Option.some.inj (layout?_run (wellFormed_start initial) steps "")

/-! ## Cleared and new -/

section

variable {overlay : Overlay} (hwf : overlay.registry.WellFormed)
  (hdefault : overlay.registry.defaultStack.layout = StackLayout.named "")
  {layouts : List StackLayout}
  (hlayouts : ∀ layout, layout ∈ layouts ↔ layout ∈ overlay.registry.layouts)

include hwf hdefault hlayouts

/-- Nothing but the layouts is left in a cleared registry. -/
theorem Registry.Like.renewed {sense : Sense} (hlayout : ∀ layout, sense.layout layout layout)
    (enabled : Bool) (obscured : Margin) :
    overlay.registry.clear.1.Like sense (fun _ => True)
      (Overlay.fresh layouts enabled obscured).registry := by
  have hfresh (name : String) : (Overlay.fresh layouts enabled obscured).registry.get? name =
      (overlay.registry.get? name).map fun stack => { layout := stack.layout } := by
    refine (Overlay.get?_registerAll {} layouts name).trans ?_
    rw [show ({} : Overlay).registry = Registry.empty from rfl, get?_empty]
    by_cases hne : name = ""
    · rw [if_pos hne, hne, get?_default, Option.map_some, hdefault]
      rfl
    · rw [if_neg hne, Option.none_or, hwf.find?_layouts hlayouts hne, Option.map_map]
      rfl
  constructor
  · intro name
    rw [get?_clear, hfresh, Option.isSome_map, Option.isSome_map]
  · intro name stack stack' _ hs hs'
    rw [get?_clear] at hs
    rw [hfresh] at hs'
    obtain ⟨stack₀, hs₀, rfl⟩ := Option.map_eq_some_iff.mp hs
    rw [hs₀] at hs'
    cases hs'
    exact ⟨hlayout stack₀.layout, .nil⟩

theorem Overlay.Like.renewed {sense : Sense} (hlayout : ∀ layout, sense.layout layout layout)
    (hpixels : ∀ pixels, sense.pixels pixels pixels) :
    overlay.clear.value.Like sense (fun _ => True)
      (fresh layouts overlay.enabled overlay.obscured) :=
  ⟨rfl, hpixels _, hpixels _, .renewed hwf hdefault hlayouts hlayout _ _⟩

end

/-! ## Going on alike -/

/-- Two sessions go on alike: they give the same answers, the states of their renderers correspond,
and frames of corresponding renderers have the same reports and make the same calls, but for the
textures in them. In the first session, the textures that are owed are destroyed before that. -/
structure Session.GoesOnLike {ρ ρ' : Type} (texture : TextureId → TextureId → Prop)
    (draws : Renderer ρ → Renderer ρ' → Prop) (screens : ρ → ρ' → Prop) (owed : List TextureId)
    (s : Session ρ) (s' : Session ρ') : Prop where
  answers : s.overlay.SameAnswers s'.overlay
  renderer : screens s.renderer s'.renderer
  frames : ∀ {R R'}, draws R R' → ∀ now,
    let frame := s.overlay.draw R now s.renderer
    let frame' := s'.overlay.draw R' now s'.renderer
    frame.report = frame'.report ∧ screens frame.canvas.renderer frame'.canvas.renderer ∧
      frame.canvas.CallsLike texture (owed.map destruction) frame'.canvas

/-- Sessions that mirror each other go on alike, if their renderers mirror each other. -/
theorem Session.Mirrors.goesOnLike {ρ ρ' : Type} {texture : TextureId → TextureId → Prop}
    {draws : Renderer ρ → Renderer ρ' → Prop} {screens : ρ → ρ' → Prop}
    {owes : List TextureId → Prop} {owed : List TextureId} {s : Session ρ} {s' : Session ρ'}
    (h : s.Mirrors (· = ·) texture screens owed s') (hs : s.WellFormed) (hs' : s'.WellFormed)
    (hrenderers : RenderersMirror texture draws screens owes) (howed : owes owed) :
    s.GoesOnLike texture draws screens owed s' where
  answers := h.overlay.sameAnswers hs hs' Sense.lawful_faithful_eq (fun _ => rfl) fun _ => rfl
  renderer := h.renderer
  frames hdraws _ := h.frames hs hs' Sense.lawful_faithful_eq hrenderers howed hdraws rfl

/-! ## Headless renderers -/

namespace Headless

/-- Textures that were given out at the same place after the given states. -/
def Shifted (start start' : Headless) (t t' : TextureId) : Prop :=
  t.number + start'.nextTexture = t'.number + start.nextTexture

/-- Two states of headless renderers after given ones: the settings are the same, as many textures
were given out, and the same surfaces were kept. -/
structure Continue (start start' r r' : Headless) : Prop where
  settings : r.settings = r'.settings
  textures : r.nextTexture + start'.nextTexture = r'.nextTexture + start.nextTexture
  surfaces : ∃ kept, r.surfaces = start.surfaces ++ kept ∧ r'.surfaces = start'.surfaces ++ kept

variable {start start' r r' : Headless}

theorem Continue.refl (h : start.settings = start'.settings) :
    Continue start start' start start' :=
  ⟨h, Nat.add_comm _ _, [], (List.append_nil _).symm, (List.append_nil _).symm⟩

/-- Calls that neither upload anything nor close a surface give out no texture and keep no
surface. -/
theorem perform_keeps (r : Headless) {call : Call} (hupload : call.isUpload = false)
    (hend : call ≠ .endSurface) :
    (r.perform call).renderer.nextTexture = r.nextTexture ∧
      (r.perform call).renderer.surfaces = r.surfaces := by
  cases call with
  | beginSurface name opacity => exact ⟨rfl, rfl⟩
  | upload icon => cases hupload
  | drawImage texture size => exact ⟨rfl, rfl⟩
  | drawText text color scale => exact ⟨rfl, rfl⟩
  | placeSurface name position =>
    unfold perform placeSurface
    cases r.current with
    | none => exact ⟨rfl, rfl⟩
    | some surface =>
      dsimp only
      split <;> exact ⟨rfl, rfl⟩
  | endSurface => exact absurd rfl hend
  | destroy texture =>
    unfold perform destroy
    dsimp only
    split <;> exact ⟨rfl, rfl⟩

namespace Continue

variable (h : Continue start start' r r')

include h

theorem perform {call call' : Call} (hupload : call.isUpload = false) (hend : call ≠ .endSurface)
    (hupload' : call'.isUpload = false) (hend' : call' ≠ .endSurface) :
    Continue start start' (r.perform call).renderer (r'.perform call').renderer := by
  obtain ⟨htextures, hsurfaces⟩ := r.perform_keeps hupload hend
  obtain ⟨htextures', hsurfaces'⟩ := r'.perform_keeps hupload' hend'
  refine ⟨?_, ?_, ?_⟩
  · rw [settings_perform, settings_perform]
    exact h.settings
  · rw [htextures, htextures']
    exact h.textures
  · rw [hsurfaces, hsurfaces']
    exact h.surfaces

theorem endSurface (hcurrent : r.current = r'.current) :
    Continue start start' r.endSurface r'.endSurface := by
  obtain ⟨kept, hkept, hkept'⟩ := h.surfaces
  unfold Headless.endSurface
  rw [← hcurrent]
  cases r.current with
  | none => exact h
  | some surface =>
    refine ⟨h.settings, h.textures, kept ++ [surface], ?_, ?_⟩
    · dsimp only
      rw [hkept, List.append_assoc]
    · dsimp only
      rw [hkept', List.append_assoc]

/-- An upload succeeds in both, and then the textures are given out at the same place, or fails in
both. -/
theorem upload (icon : Icon) :
    Continue start start' (r.upload icon).renderer (r'.upload icon).renderer ∧
      Option.Rel (Shifted start start') (r.upload icon).texture
        (r'.upload icon).texture := by
  have hsettings (r : Headless) : (r.upload icon).renderer.settings = r.settings := by
    unfold Headless.upload
    dsimp only
    split <;> rfl
  have hanswers : (r.upload icon).renderer.nextTexture + start'.nextTexture =
        (r'.upload icon).renderer.nextTexture + start.nextTexture ∧
      Option.Rel (Shifted start start') (r.upload icon).texture
        (r'.upload icon).texture := by
    have hfails : r.failUploads = r'.failUploads := (congrArg Headless.failUploads h.settings :)
    have htextures := h.textures
    unfold Headless.upload
    dsimp only
    rw [← hfails]
    split
    · exact ⟨htextures, .none⟩
    · refine ⟨?_, .some htextures⟩
      dsimp only
      omega
  refine ⟨⟨?_, hanswers.1, ?_⟩, hanswers.2⟩
  · rw [hsettings, hsettings]
    exact h.settings
  · rw [(r.upload_keeps_surfaces icon).2.1, (r'.upload_keeps_surfaces icon).2.1]
    exact h.surfaces

end Continue

/-- Headless renderers with the same settings are used alike, whatever was drawn on them before. -/
theorem continues_mirror (start start' : Headless) :
    RenderersMirror (Shifted start start') Draws (Continue start start') fun _ => True := by
  rintro _ _ r r' owed ⟨viewport?, rfl, rfl⟩ hscreens -
  have hbase := parallel r.settings viewport?
  have hkept {call call' : Call} (hupload : call.isUpload = false) (hend : call ≠ .endSurface)
      (hupload' : call'.isUpload = false) (hend' : call' ≠ .endSurface) {c c' : Canvas Headless}
      (hc : Continue start start' c.renderer c'.renderer) :
      Continue start start' (c.perform (rendererIn viewport?) call).renderer
        (c'.perform (rendererIn viewport?) call').renderer :=
    hc.perform hupload hend hupload' hend'
  refine ⟨fun c c' => c.BothSet r.settings c' ∧ Continue start start' c.renderer c'.renderer,
    fun c c' => c.BothOpen r.settings c' ∧ Continue start start' c.renderer c'.renderer, ?_, ?_,
    fun hc => hc.2⟩
  · exact
      { viewport := fun hc => hbase.viewport hc.1
        framebufferScale := fun hc => hbase.framebufferScale hc.1
        report := fun hc event => ⟨hbase.report hc.1 event, hc.2⟩
        destroy := fun hc _ =>
          ⟨hbase.destroy hc.1 trivial, hkept rfl Call.noConfusion rfl Call.noConfusion hc.2⟩
        begin := fun hc name opacity =>
          ⟨hbase.begin hc.1 name opacity, hkept rfl Call.noConfusion rfl Call.noConfusion hc.2⟩
        upload := fun hc icon =>
          have hupload := hc.2.upload icon
          ⟨⟨(hbase.upload hc.1 icon).1, hupload.1⟩, hupload.2⟩
        reportOpened := fun hc event => ⟨hbase.reportOpened hc.1 event, hc.2⟩
        drawImage := fun hc _ size =>
          ⟨hbase.drawImage hc.1 trivial size,
            hkept rfl Call.noConfusion rfl Call.noConfusion hc.2⟩
        drawText := fun hc text color scale =>
          ⟨hbase.drawText hc.1 text color scale,
            hkept rfl Call.noConfusion rfl Call.noConfusion hc.2⟩
        measure := fun hc => hbase.measure hc.1
        place := fun hc name position =>
          ⟨hbase.place hc.1 name position, hkept rfl Call.noConfusion rfl Call.noConfusion hc.2⟩
        close := fun hc => ⟨hbase.close hc.1, hc.2.endSurface hc.1.current⟩ }
  · -- the textures that are owed are destroyed on the first renderer only
    have hdestroyed (owed : List TextureId) {c : Canvas Headless}
        (hc : Continue start start' c.renderer r') :
        Continue start start' (c.destroyAll (rendererIn viewport?) owed).renderer r' := by
      induction owed generalizing c with
      | nil => exact hc
      | cons t owed ih =>
        have hdestroy : (Call.destroy t).isUpload = false := rfl
        obtain ⟨htextures, hsurfaces⟩ := c.renderer.perform_keeps hdestroy Call.noConfusion
        refine ih ⟨?_, htextures ▸ hc.textures, hsurfaces ▸ hc.surfaces⟩
        exact (settings_perform c.renderer _).trans hc.settings
    have hcontinue := hdestroyed owed (c := { renderer := r }) hscreens
    exact ⟨⟨hcontinue.settings.trans hscreens.settings.symm, hscreens.settings.symm⟩, hcontinue⟩

end Headless

/-! ## Runs -/

namespace Session

variable {ρ : Type}

/-- Runs with headless frames do not change the settings. -/
theorem settings_run {s : Session Headless} {steps : List (Step Headless)}
    (hframes : ∀ step ∈ steps, ∀ R, step.operation = .draw R →
      ∃ viewport?, R = Headless.rendererIn viewport?) :
    (s.run steps).renderer.settings = s.renderer.settings := by
  induction steps generalizing s with
  | nil => rfl
  | cons step steps ih =>
    obtain ⟨hframe, hframes⟩ := List.forall_mem_cons.mp hframes
    refine (ih hframes).trans ?_
    obtain ⟨now, operation⟩ := step
    cases operation with
    | draw R =>
      obtain ⟨viewport?, rfl⟩ := hframe R rfl
      exact Overlay.settings_draw viewport? s.overlay now s.renderer
    | _ => rfl

/-- Clearing renews an overlay. In every state of a run, clearing leaves every stack, without
messages. A new overlay with the same stacks, registered in any order, and the same settings then
gives the same answers all along, whoever draws the frames of both. Frames of renderers that are
used alike have the same reports and calls, but that the next frame first destroys the textures of
the dropped messages, after those that waited before. Headless renderers with the same settings are
used alike: they keep the same surfaces, and their textures are numbered on from what they were. -/
theorem clear_renews (initial : ρ) (past : List (Step ρ)) (layouts : List StackLayout)
    (hlayouts : ∀ layout,
      layout ∈ layouts ↔ layout ∈ ((start initial).run past).overlay.registry.layouts) :
    let overlay := ((start initial).run past).overlay
    let fresh := Overlay.fresh layouts overlay.enabled overlay.obscured
    let owed := overlay.registry.orphans ++ overlay.registry.textures
    (∀ name, overlay.clear.value.messageCount? name =
      (overlay.messageCount? name).map fun _ => 0) ∧
    (∀ {σ σ' : Type} (screen : σ) (screen' : σ') {future : List (Step σ)}
        {future' : List (Step σ')},
      List.Forall₂ (Step.Like .lifecycle fun _ _ => True) future future' →
      (({ overlay := overlay.clear.value, renderer := screen } : Session σ).run
          future).overlay.SameAnswers
        (({ overlay := fresh, renderer := screen' } : Session σ').run future').overlay) ∧
    (∀ {σ σ' : Type} {texture : TextureId → TextureId → Prop}
        {draws : Renderer σ → Renderer σ' → Prop} {screens : σ → σ' → Prop},
      RenderersMirror texture draws screens (fun _ => True) →
      ∀ {screen : σ} {screen' : σ'}, screens screen screen' →
      ∀ {future : List (Step σ)} {future' : List (Step σ')},
        List.Forall₂ (Step.Like (.faithful (· = ·) texture) draws) future future' →
        (({ overlay := overlay.clear.value, renderer := screen } : Session σ).run
            future).GoesOnLike texture draws screens (owedAfter owed future)
          (({ overlay := fresh, renderer := screen' } : Session σ').run future')) ∧
    ∀ {screen screen' : Headless}, screen.settings = screen'.settings →
      ∀ {future : List (Step Headless)},
        (∀ step ∈ future, ∀ R, step.operation = .draw R →
          ∃ viewport?, R = Headless.rendererIn viewport?) →
        (({ overlay := overlay.clear.value, renderer := screen } : Session Headless).run
            future).GoesOnLike (Headless.Shifted screen screen') Headless.Draws
          (Headless.Continue screen screen') (owedAfter owed future)
          (({ overlay := fresh, renderer := screen' } : Session Headless).run future) := by
  intro overlay fresh owed
  have hwf : overlay.registry.WellFormed := wellFormed_run (wellFormed_start initial) past
  have hdefault := layout_defaultStack initial past
  have hcleared {σ : Type} (screen : σ) (future : List (Step σ)) :
      (({ overlay := overlay.clear.value, renderer := screen } : Session σ).run
        future).WellFormed :=
    wellFormed_run (s := { overlay := overlay.clear.value, renderer := screen }) hwf.clear future
  have hfresh {σ : Type} (screen : σ) (future : List (Step σ)) :
      (({ overlay := fresh, renderer := screen } : Session σ).run future).WellFormed :=
    wellFormed_run (s := { overlay := fresh, renderer := screen })
      (Overlay.wellFormed_registerAll .empty layouts) future
  have hgoesOn {σ σ' : Type} {texture : TextureId → TextureId → Prop}
      {draws : Renderer σ → Renderer σ' → Prop} {screens : σ → σ' → Prop}
      (hrenderers : RenderersMirror texture draws screens fun _ => True) {screen : σ}
      {screen' : σ'} (hscreens : screens screen screen') {future : List (Step σ)}
      {future' : List (Step σ')}
      (hfuture : List.Forall₂ (Step.Like (.faithful (· = ·) texture) draws) future future') :
      (({ overlay := overlay.clear.value, renderer := screen } : Session σ).run
          future).GoesOnLike texture draws screens (owedAfter owed future)
        (({ overlay := fresh, renderer := screen' } : Session σ').run future') := by
    have hmirrors : Mirrors (· = ·) texture screens owed
        { overlay := overlay.clear.value, renderer := screen }
        { overlay := fresh, renderer := screen' } := by
      refine ⟨⟨.renewed hwf hdefault hlayouts (fun _ => rfl) fun _ => rfl, hscreens⟩, [],
        (List.append_nil _).symm, ?_⟩
      rw [show fresh.registry.orphans = [] from Overlay.orphans_registerAll {} layouts]
      exact .nil
    have hrun := hmirrors.run (hcleared screen []) (hfresh screen' []) Sense.lawful_faithful_eq
      hrenderers trivial trivial hfuture
    exact hrun.goesOnLike (hcleared screen future) (hfresh screen' future') hrenderers trivial
  refine ⟨?_, ?_, hgoesOn, ?_⟩
  · intro name
    show (overlay.registry.clear.1.get? name).map Stack.size = _
    unfold Overlay.messageCount?
    rw [Registry.get?_clear, Option.map_map, Option.map_map]
    rfl
  · intro σ σ' screen screen' future future' hfuture
    have hlike : Like .lifecycle (fun _ => True) (fun _ _ => True)
        ({ overlay := overlay.clear.value, renderer := screen } : Session σ)
        ({ overlay := fresh, renderer := screen' } : Session σ') :=
      ⟨.renewed hwf hdefault hlayouts (fun _ => ⟨rfl, rfl⟩) fun _ => trivial, trivial⟩
    have hrun := hlike.run (hcleared screen []) (hfresh screen' []) Sense.lawful_lifecycle
      Sense.frames_lifecycle hfuture
    exact hrun.overlay.sameAnswers (hcleared screen future) (hfresh screen' future')
      Sense.lawful_lifecycle (fun _ => rfl) fun _ => ⟨rfl, rfl⟩
  · intro screen screen' hsettings future hframes
    exact hgoesOn (Headless.continues_mirror screen screen') (.refl hsettings)
      (List.forall₂_same.mpr fun step hstep => .headless (hframes step hstep))

/-- A stack in a corner is registered, and a message with an icon of one pixel goes to it. -/
def iconSteps : List (Step Headless) :=
  [⟨0, .register (StackLayout.named "corner")⟩,
    ⟨0, .submit .typeless
      { text := "Photo taken"
        duration := 1000
        color := Color.cyan
        icon := some pixel
        stack := "corner" }⟩]

/-- If the message was drawn once when everything is cleared and it is submitted again, then the
next frame has the report that a new overlay has, and destroys the first texture before it makes
the calls that the new one makes. -/
theorem icon_renewed :
    let screen : Headless := { viewport := ⟨Binary.ofNat 640, Binary.ofNat 480⟩ }
    let s := (start screen).run (iconSteps ++ [⟨100, .draw Headless.renderer⟩])
    let t := ({ overlay := s.overlay.clear.value, renderer := s.renderer } : Session Headless).run
      iconSteps
    let t' := ({ overlay := Overlay.fresh [StackLayout.named "corner"] true {}
                 renderer := screen } : Session Headless).run iconSteps
    let frame := t.overlay.draw Headless.renderer 200 t.renderer
    let frame' := t'.overlay.draw Headless.renderer 200 t'.renderer
    frame.report = frame'.report ∧
      frame.canvas.CallsLike (Headless.Shifted s.renderer screen) [destruction ⟨1⟩]
        frame'.canvas := by
  intro screen s t t' frame frame'
  have hlayouts : s.overlay.registry.layouts = [StackLayout.named "corner"] := by rfl
  have howed : s.overlay.registry.orphans ++ s.overlay.registry.textures = [⟨1⟩] := by
    decide +kernel
  have hframes : ∀ step ∈ iconSteps, ∀ R, step.operation = .draw R →
      ∃ viewport?, R = Headless.rendererIn viewport? := by
    unfold iconSteps
    simp only [List.forall_mem_cons, List.not_mem_nil, false_implies, implies_true, and_true]
    refine ⟨?_, ?_⟩
    · intro R hR
      cases hR
    · intro R hR
      cases hR
  have hsettings : s.renderer.settings = screen.settings := by
    refine settings_run (s := start screen) fun step hstep => ?_
    rcases List.mem_append.mp hstep with hstep | hstep
    · exact hframes step hstep
    · obtain rfl := List.mem_singleton.mp hstep
      intro R hR
      cases hR
      exact ⟨none, rfl⟩
  obtain ⟨-, -, -, hheadless⟩ := clear_renews screen
    (iconSteps ++ [⟨100, .draw Headless.renderer⟩]) [StackLayout.named "corner"]
    fun layout => by rw [← hlayouts]
  have hdraws : Headless.Draws Headless.renderer Headless.renderer := ⟨none, rfl, rfl⟩
  have hnext := (hheadless hsettings hframes).frames hdraws 200
  rw [show s.overlay.registry.orphans ++ s.overlay.registry.textures = _ from howed] at hnext
  exact ⟨hnext.1, hnext.2.2⟩

end Session

end OnScreen
