import OnScreen.Proofs.Custody
import OnScreen.Proofs.Likeness

/-!
# Renderers that are used alike

Two renderers that answer the same calls alike draw the same messages alike. What has to be known of
them is a relation that holds whenever no message is being drawn, and one that holds while a surface
is open; the textures that they give out may be different.

Results:
* `Sense.faithful`: the sense in which only the clock and the textures may differ.
* `Renderer.Parallel`: what has to be shown of single calls.
* `Renderer.Parallel.drawMessage`, `Renderer.Parallel.visit`, `Renderer.Parallel.visits`: what
  follows for messages.
* `Renderer.Parallel.draw`: stacks that are alike are drawn alike, and the reports are the same.
-/

namespace OnScreen

/-- Two pictures are the same but for the textures that renderers hold, which correspond. -/
inductive Picture.Like (texture : TextureId → TextureId → Prop) : Picture → Picture → Prop
  | absent : Like texture .absent .absent
  | waiting (icon : Icon) : Like texture (.waiting icon) (.waiting icon)
  | uploaded {id id' : TextureId} (h : texture id id') (size : Size Single) :
    Like texture (.uploaded ⟨id, size⟩) (.uploaded ⟨id', size⟩)

/-- Everything that shows is the same: readings and textures correspond, and the rest is equal. -/
def Sense.faithful (reading : Reading → Reading → Prop)
    (texture : TextureId → TextureId → Prop) : Sense where
  reading := reading
  picture := Picture.Like texture
  layout layout layout' := layout = layout'
  pixels pixels pixels' := pixels = pixels'

theorem Sense.lawful_faithful {reading : Reading → Reading → Prop}
    {texture : TextureId → TextureId → Prop}
    (helapsed : ∀ {a a' b b'}, reading a a' → reading b b' →
      (if b < a then 0 else b - a) = if b' < a' then 0 else b' - a') :
    (faithful reading texture).Lawful where
  elapsed := helapsed
  picture icon? := by
    cases icon? with
    | none => exact .absent
    | some icon => exact .waiting icon
  name h := congrArg Layout.name h
  unnamed := rfl
  pixels := rfl

/-- The clock is the same. -/
theorem Sense.lawful_faithful_eq {texture : TextureId → TextureId → Prop} :
    (faithful (· = ·) texture).Lawful := by
  refine lawful_faithful ?_
  rintro a _ b _ rfl rfl
  rfl

section

variable {reading : Reading → Reading → Prop} {texture : TextureId → TextureId → Prop}
  (hreading : ∀ now, reading now now) (htexture : ∀ id, texture id id)

include hreading htexture

theorem Message.Like.refl (m : Message) : m.Like (.faithful reading texture) m := by
  have hpicture (picture : Picture) : picture.Like texture picture := by
    cases picture with
    | absent => exact .absent
    | waiting icon => exact .waiting icon
    | uploaded t => exact .uploaded (htexture t.id) t.size
  exact ⟨rfl, hreading m.startedAt, hpicture m.picture⟩

theorem Stack.Like.refl (stack : Stack) : stack.Like (.faithful reading texture) stack :=
  ⟨rfl, List.forall₂_same.mpr fun m _ => .refl hreading htexture m⟩

end

/-- If readings and textures are to be the same, nothing may differ. -/
theorem Message.Like.eq {m m' : Message} (h : m.Like (.faithful (· = ·) (· = ·)) m') : m = m' := by
  have hstarted : m.startedAt = m'.startedAt := h.startedAt
  have hpicture : m.picture = m'.picture := by
    have hlike : m.picture.Like (· = ·) m'.picture := h.picture
    generalize m.picture = picture at hlike ⊢
    generalize m'.picture = picture' at hlike ⊢
    cases hlike with
    | absent => rfl
    | waiting icon => rfl
    | uploaded hid size => rw [hid]
  rw [h.fields, ← hstarted, ← hpicture]

variable {ρ ρ' : Type}

/-- Two renderers in use answer alike: a relation holds between them when no surface of the frame is
open, and another while one is; the same calls keep them. -/
structure Renderer.Parallel (R : Renderer ρ) (R' : Renderer ρ')
    (texture : TextureId → TextureId → Prop) (closed opened : Canvas ρ → Canvas ρ' → Prop) :
    Prop where
  viewport : ∀ {c c'}, closed c c' → R.viewport c.renderer = R'.viewport c'.renderer
  framebufferScale : ∀ {c c'}, closed c c' →
    R.framebufferScale c.renderer = R'.framebufferScale c'.renderer
  report : ∀ {c c'}, closed c c' → ∀ event, closed (c.report event) (c'.report event)
  destroy : ∀ {c c' t t'}, closed c c' → texture t t' →
    closed (c.perform R (.destroy t)) (c'.perform R' (.destroy t'))
  begin : ∀ {c c'}, closed c c' → ∀ name opacity,
    opened (c.perform R (.beginSurface name opacity)) (c'.perform R' (.beginSurface name opacity))
  upload : ∀ {c c'}, opened c c' → ∀ icon,
    opened (c.upload R icon).1 (c'.upload R' icon).1 ∧
      Option.Rel texture (c.upload R icon).2 (c'.upload R' icon).2
  reportOpened : ∀ {c c'}, opened c c' → ∀ event, opened (c.report event) (c'.report event)
  drawImage : ∀ {c c' t t'}, opened c c' → texture t t' → ∀ size,
    opened (c.perform R (.drawImage t size)) (c'.perform R' (.drawImage t' size))
  drawText : ∀ {c c'}, opened c c' → ∀ text color scale,
    opened (c.perform R (.drawText text color scale)) (c'.perform R' (.drawText text color scale))
  measure : ∀ {c c'}, opened c c' →
    R.surfaceSize c.renderer = R'.surfaceSize c'.renderer ∧
      R.framebufferScale c.renderer = R'.framebufferScale c'.renderer
  place : ∀ {c c'}, opened c c' → ∀ name position,
    opened (c.perform R (.placeSurface name position))
      (c'.perform R' (.placeSurface name position))
  close : ∀ {c c'}, opened c c' → closed (c.perform R .endSurface) (c'.perform R' .endSurface)

/-- Two passes have placed the same, on canvases that correspond. -/
structure Pass.Like (closed : Canvas ρ → Canvas ρ' → Prop) (pass : Pass ρ) (pass' : Pass ρ') :
    Prop where
  canvas : closed pass.canvas pass'.canvas
  cursor : pass.cursor = pass'.cursor
  placements : pass.placements = pass'.placements

/-- Visits and visits that correspond leave messages that are alike. -/
structure VisitsLike {σ σ' : Type} (sense : Sense) (vs : List (Visited σ))
    (vs' : List (Visited σ')) : Prop where
  kept : List.Forall₂ (Message.Like sense) ((keptBy vs).map Prod.snd) ((keptBy vs').map Prod.snd)
  removed : List.Forall₂ (Message.Like sense) (removedBy vs) (removedBy vs')

namespace Renderer.Parallel

variable {R : Renderer ρ} {R' : Renderer ρ'} {texture : TextureId → TextureId → Prop}
  {closed opened : Canvas ρ → Canvas ρ' → Prop} (h : R.Parallel R' texture closed opened)
  {reading : Reading → Reading → Prop} {canvas : Canvas ρ} {canvas' : Canvas ρ'}

include h

/-! ## One message -/

theorem uploadIcon (hcanvas : opened canvas canvas') {m m' : Message}
    (hm : m.Like (.faithful reading texture) m') :
    opened (uploadIcon R canvas m).1 (uploadIcon R' canvas' m').1 ∧
      (uploadIcon R canvas m).2.Like (.faithful reading texture) (uploadIcon R' canvas' m').2 := by
  have hpicture : m.picture.Like texture m'.picture := hm.picture
  have htext := hm.text
  unfold OnScreen.uploadIcon
  generalize m.picture = picture at hpicture ⊢
  generalize m'.picture = picture' at hpicture ⊢
  cases hpicture with
  | absent => exact ⟨hcanvas, hm⟩
  | uploaded hid size => exact ⟨hcanvas, hm⟩
  | waiting icon =>
    obtain ⟨hupload, hanswer⟩ := h.upload hcanvas icon
    rcases heq : canvas.upload R icon with ⟨canvas, id?⟩
    rcases heq' : canvas'.upload R' icon with ⟨canvas', id?'⟩
    rw [heq, heq'] at hupload hanswer
    simp only [heq, heq']
    dsimp only at hupload hanswer
    cases hanswer with
    | none =>
      have hreport := h.reportOpened hupload (.uploadFailed icon.width icon.height m.text)
      refine ⟨?_, hm.withPicture .absent⟩
      rw [← htext]
      exact hreport
    | some hid => exact ⟨hupload, hm.withPicture (.uploaded hid _)⟩

theorem drawPicture (hcanvas : opened canvas canvas') {m m' : Message}
    (hm : m.Like (.faithful reading texture) m') :
    opened (drawPicture R canvas m) (drawPicture R' canvas' m') := by
  have hpicture : m.picture.Like texture m'.picture := hm.picture
  unfold OnScreen.drawPicture
  generalize m.picture = picture at hpicture ⊢
  generalize m'.picture = picture' at hpicture ⊢
  cases hpicture with
  | absent => exact hcanvas
  | waiting icon => exact hcanvas
  | uploaded hid size => exact h.drawImage hcanvas hid size

section

variable (hsense : (Sense.faithful reading texture).Lawful) {now now' : Reading}
  (hnow : reading now now') (layout : StackLayout) (viewport : Size Single)

include hsense hnow

theorem drawMessage {pass : Pass ρ} {pass' : Pass ρ'} (hpass : pass.Like closed pass')
    {m m' : Message} (hm : m.Like (.faithful reading texture) m') :
    (drawMessage R layout viewport now pass m).1.Like closed
        (drawMessage R' layout viewport now' pass' m').1 ∧
      (drawMessage R layout viewport now pass m).2.Like (.faithful reading texture)
        (drawMessage R' layout viewport now' pass' m').2 := by
  obtain ⟨canvas, cursor, placements⟩ := pass
  obtain ⟨canvas', cursor', placements'⟩ := pass'
  obtain ⟨hcanvas, hcursor, hplacements⟩ := hpass
  cases hcursor
  cases hplacements
  have hopacity := hm.opacity_eq hsense hnow
  unfold OnScreen.drawMessage
  dsimp only at hcanvas ⊢
  rw [hopacity]
  generalize surfaceName layout.name placements.length = name
  generalize m'.opacity (m'.timeLeft now') = opacity
  obtain ⟨hupload, hmessage⟩ := h.uploadIcon (h.begin hcanvas name opacity) hm
  generalize OnScreen.uploadIcon R _ m = uploaded at hupload hmessage ⊢
  generalize OnScreen.uploadIcon R' _ m' = uploaded' at hupload hmessage ⊢
  obtain ⟨canvas₁, m₁⟩ := uploaded
  obtain ⟨canvas₁', m₁'⟩ := uploaded'
  dsimp only at hupload hmessage ⊢
  have hpicture := h.drawPicture hupload hmessage
  have htext := h.drawText hpicture m₁.text m₁.color.unpack m₁.scale
  rw [show m₁'.color = m₁.color by rw [hmessage.fields],
    show m₁'.scale = m₁.scale by rw [hmessage.fields], ← hmessage.text]
  generalize (OnScreen.drawPicture R canvas₁ m₁).perform R _ = canvas₂ at htext ⊢
  generalize (OnScreen.drawPicture R' canvas₁' m₁').perform R' _ = canvas₂' at htext ⊢
  obtain ⟨hsize, hscale⟩ := h.measure htext
  rw [hsize, hscale]
  exact ⟨⟨h.close (h.place htext _ _), rfl, rfl⟩, hmessage.markDrawn⟩

/-! ## A pass over a stack -/

theorem visit {pass : Pass ρ} {pass' : Pass ρ'} (hpass : pass.Like closed pass') {m m' : Message}
    (hm : m.Like (.faithful reading texture) m') (drawing : Bool) (obscured : Margin) :
    let answer := visitMessage R ⟨now, drawing, obscured⟩ layout viewport pass m
    let answer' := visitMessage R' ⟨now', drawing, obscured⟩ layout viewport pass' m'
    answer.1.Like closed answer'.1 ∧ answer.2.1.Like (.faithful reading texture) answer'.2.1 ∧
      answer.2.2 = answer'.2.2 := by
  have hdrawn := h.drawMessage hsense hnow layout viewport hpass hm
  have hreport (event : Event) :
      Pass.Like closed { pass with canvas := pass.canvas.report event }
        { pass' with canvas := pass'.canvas.report event } :=
    ⟨h.report hpass.canvas event, hpass.cursor, hpass.placements⟩
  unfold visitMessage
  dsimp only
  rw [hm.fate_eq hsense hnow, hm.text]
  cases m'.fate now' with
  | expired => exact ⟨hreport _, hm, rfl⟩
  | superseded => exact ⟨hreport _, hm, rfl⟩
  | pending =>
    cases drawing with
    | false => exact ⟨hpass, hm, rfl⟩
    | true => exact ⟨hdrawn.1, hdrawn.2, rfl⟩

theorem visits {pass : Pass ρ} {pass' : Pass ρ'} (hpass : pass.Like closed pass') (drawing : Bool)
    (obscured : Margin) {entries entries' : List (Key × Message)}
    (hentries : List.Forall₂ (fun e e' => e.2.Like (.faithful reading texture) e'.2) entries
      entries') :
    (Stack.stateAfter (visitMessage R ⟨now, drawing, obscured⟩ layout viewport) pass
          entries).Like closed
        (Stack.stateAfter (visitMessage R' ⟨now', drawing, obscured⟩ layout viewport) pass'
          entries') ∧
      VisitsLike (.faithful reading texture)
        (Stack.visits (visitMessage R ⟨now, drawing, obscured⟩ layout viewport) pass entries)
        (Stack.visits (visitMessage R' ⟨now', drawing, obscured⟩ layout viewport) pass'
          entries') := by
  induction hentries generalizing pass pass' with
  | nil => exact ⟨hpass, .nil, .nil⟩
  | @cons e e' _ _ hm _ ih =>
    obtain ⟨hstate, hmessage, hvisit⟩ :=
      h.visit hsense hnow layout viewport hpass hm drawing obscured
    obtain ⟨hafter, hkept, hremoved⟩ := ih hstate
    refine ⟨hafter, ?_, ?_⟩
    · rw [Stack.visits, Stack.visits, keptBy_cons, keptBy_cons]
      unfold Visited.isKept
      dsimp only
      rw [hvisit]
      split
      · exact .cons hmessage hkept
      · exact hkept
    · rw [Stack.visits, Stack.visits, removedBy_cons, removedBy_cons]
      unfold Visited.isKept
      dsimp only
      rw [hvisit]
      split
      · exact hremoved
      · exact .cons hmessage hremoved

end

/-- Textures that correspond are destroyed alike. -/
theorem destroyAll (hcanvas : closed canvas canvas') {ts ts' : List TextureId}
    (hts : List.Forall₂ texture ts ts') :
    closed (canvas.destroyAll R ts) (canvas'.destroyAll R' ts') := by
  induction hts generalizing canvas canvas' with
  | nil => exact hcanvas
  | cons ht _ ih => exact ih (h.destroy hcanvas ht)

omit h in
theorem forall₂_textureIds {ms ms' : List Message}
    (hms : List.Forall₂ (Message.Like (.faithful reading texture)) ms ms') :
    List.Forall₂ texture (textureIds ms) (textureIds ms') := by
  induction hms with
  | nil => exact .nil
  | @cons m m' _ _ hm _ ih =>
    have hpicture : m.picture.Like texture m'.picture := hm.picture
    rw [textureIds_cons, textureIds_cons]
    refine List.rel_append ?_ ih
    unfold Message.textureId?
    generalize m.picture = picture at hpicture ⊢
    generalize m'.picture = picture' at hpicture ⊢
    cases hpicture with
    | absent => exact .nil
    | waiting icon => exact .nil
    | uploaded hid size => exact .cons hid .nil

/-- Stacks that are alike are drawn alike: what is left of them is alike, the reports are the same,
and the canvases correspond. -/
theorem draw (hsense : (Sense.faithful reading texture).Lawful) {now now' : Reading}
    (hnow : reading now now') {stack stack' : Stack}
    (hstack : stack.Like (.faithful reading texture) stack') (hcanvas : closed canvas canvas')
    (drawing : Bool) (obscured : Margin) :
    let drawn := stack.draw R ⟨now, drawing, obscured⟩ canvas
    let drawn' := stack'.draw R' ⟨now', drawing, obscured⟩ canvas'
    drawn.stack.Like (.faithful reading texture) drawn'.stack ∧ drawn.report = drawn'.report ∧
      closed drawn.canvas drawn'.canvas := by
  intro drawn drawn'
  have hlayout : stack.layout = stack'.layout := hstack.layout
  have hstart : (stack.passStart R ⟨now, drawing, obscured⟩ canvas).Like closed
      (stack'.passStart R' ⟨now', drawing, obscured⟩ canvas') := by
    refine ⟨hcanvas, ?_, rfl⟩
    unfold Stack.passStart
    rw [hlayout, h.viewport hcanvas, h.framebufferScale hcanvas]
  have hentries : List.Forall₂ (fun e e' => e.2.Like (.faithful reading texture) e'.2)
      (Stack.inOrder stack.layout.reversed stack.messages.entries)
      (Stack.inOrder stack.layout.reversed stack'.messages.entries) := by
    have hmessages := hstack.messages
    unfold Stack.toList OrderedMap.values at hmessages
    rw [List.forall₂_map_left_iff, List.forall₂_map_right_iff] at hmessages
    exact Stack.forall₂_inOrder _ hmessages
  -- the walks are by the same visitor, which has the layout and the viewport of both
  obtain ⟨hstate, hvisits⟩ : (stack.walk stack.layout.reversed
        (stack.passVisit R ⟨now, drawing, obscured⟩ canvas)
        (stack.passStart R ⟨now, drawing, obscured⟩ canvas)).state.Like closed
      (stack'.walk stack'.layout.reversed
        (stack'.passVisit R' ⟨now', drawing, obscured⟩ canvas')
        (stack'.passStart R' ⟨now', drawing, obscured⟩ canvas')).state ∧
      VisitsLike (.faithful reading texture) (stack.passVisits R ⟨now, drawing, obscured⟩ canvas)
        (stack'.passVisits R' ⟨now', drawing, obscured⟩ canvas') := by
    rw [Stack.walk_state, Stack.walk_state]
    unfold Stack.passVisits Stack.walkVisits Stack.passVisit
    rw [← hlayout, ← h.viewport hcanvas]
    exact h.visits hsense hnow _ _ hstart drawing obscured hentries
  refine ⟨⟨hlayout, ?_⟩, ?_, ?_⟩
  · unfold Stack.toList OrderedMap.values
    rw [Stack.draw_entries, Stack.draw_entries, ← Stack.inOrder_map, ← Stack.inOrder_map, hlayout]
    exact Stack.forall₂_inOrder _ hvisits.kept
  · have hplacements := hstate.placements
    have hpruned := hvisits.removed.length_eq
    unfold Stack.passVisits at hpruned
    rw [← Stack.walk_removed, ← Stack.walk_removed] at hpruned
    exact congrArg₂ FrameReport.mk hplacements hpruned
  · have hremoved := hvisits.removed
    unfold Stack.passVisits at hremoved
    rw [← Stack.walk_removed, ← Stack.walk_removed] at hremoved
    exact h.destroyAll hstate.canvas (forall₂_textureIds hremoved)

end Renderer.Parallel

end OnScreen
