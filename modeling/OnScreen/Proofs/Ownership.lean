import Mathlib.Data.List.Induction
import Mathlib.Logic.Function.Basic
import OnScreen.Proofs.Textures

/-!
# Textures and the renderers that made them

An overlay remembers the textures of its messages by their numbers alone, and gives them to
whichever renderer draws the next frame. Taken together, the calls of a run are in order: an image
is drawn, and a texture destroyed, only while it was handed out more often than destroyed. On a
single renderer they are in order as long as no texture is held when another renderer takes over;
one that is held then may be destroyed where it was never made.

Results:
* `live_of_outstanding`: a texture that was handed out more often than destroyed is live, if none is
  handed out while it is live.
* `Kept`, `custody_kept`: what was uploaded is destroyed or held, and all calls were rightful.
* `Renderer.among`, `custody_among`: renderers side by side.
* `textures_used_rightfully`: all runs, and runs in which renderers take over from each other.
* `foreign_texture_destroyed`: a renderer destroys a texture that another one has made.
-/

namespace OnScreen

open TraceEntry

/-! ## Rightful calls -/

/-- The texture that a trace entry draws or destroys, if any. -/
def TraceEntry.used? : TraceEntry → Option TextureId
  | .call (.drawImage t _) _ => some t
  | .call (.destroy t) _ => some t
  | _ => none

/-- The texture was handed out more often than destroyed. -/
def Outstanding (trace : List TraceEntry) (t : TextureId) : Prop :=
  (destroyed trace).count t < (uploaded trace).count t

/-- The texture was handed out and not destroyed since. -/
def Live (trace : List TraceEntry) (t : TextureId) : Prop :=
  ∃ before icon since, trace = before ++ .call (.upload icon) (some t) :: since ∧
    ∀ answer, .call (.destroy t) answer ∉ since

/-- Textures are drawn and destroyed only when they are allowed to be, going by what happened
before. -/
def Rightful (allowed : List TraceEntry → TextureId → Prop) (trace : List TraceEntry) : Prop :=
  ∀ before e after, trace = before ++ e :: after → ∀ t, e.used? = some t → allowed before t

/-- No texture is handed out while it is live. -/
def Fresh (trace : List TraceEntry) : Prop :=
  ∀ before icon t after, trace = before ++ .call (.upload icon) (some t) :: after → ¬ Live before t

theorem rightful_concat {allowed : List TraceEntry → TextureId → Prop} {trace : List TraceEntry}
    {e : TraceEntry} :
    Rightful allowed (trace ++ [e]) ↔
      Rightful allowed trace ∧ ∀ t, e.used? = some t → allowed trace t := by
  constructor
  · intro h
    refine ⟨?_, h trace e [] rfl⟩
    rintro before e' after rfl
    exact h before e' (after ++ [e]) (by simp)
  · rintro ⟨htrace, hlast⟩ before e' after h
    rcases List.eq_nil_or_concat after with rfl | ⟨after, last, rfl⟩
    · obtain ⟨rfl, he⟩ := List.append_inj' h rfl
      cases he
      exact hlast
    · rw [List.concat_eq_append, ← List.cons_append, ← List.append_assoc] at h
      obtain ⟨rfl, -⟩ := List.append_inj' h rfl
      exact htrace before e' after rfl

/-- What uses no texture can follow. -/
theorem Rightful.append {allowed : List TraceEntry → TextureId → Prop} {trace : List TraceEntry}
    (h : Rightful allowed trace) {entries : List TraceEntry}
    (hunused : ∀ e ∈ entries, e.used? = none) : Rightful allowed (trace ++ entries) := by
  induction entries generalizing trace with
  | nil => simpa using h
  | cons e entries ih =>
    obtain ⟨he, hrest⟩ := List.forall_mem_cons.mp hunused
    have hone : Rightful allowed (trace ++ [e]) :=
      rightful_concat.mpr ⟨h, fun t ht => by rw [he] at ht; cases ht⟩
    simpa using ih hone hrest

theorem Fresh.of_append {trace trace' : List TraceEntry} (h : Fresh (trace ++ trace')) :
    Fresh trace := by
  rintro before icon t after rfl
  exact h before icon t (after ++ trace') (by simp)

/-- If no texture is handed out twice, none is handed out while it is live. -/
theorem fresh_of_nodup {trace : List TraceEntry} (h : (uploaded trace).Nodup) : Fresh trace := by
  rintro before icon t after rfl ⟨past, icon', since, rfl, -⟩
  simp [uploaded, List.nodup_append] at h

section

variable {trace : List TraceEntry} {t : TextureId}

theorem Live.concat (h : Live trace t) {e : TraceEntry}
    (he : ∀ answer, e ≠ .call (.destroy t) answer) : Live (trace ++ [e]) t := by
  obtain ⟨before, icon, since, rfl, hsince⟩ := h
  refine ⟨before, icon, since ++ [e], by simp, ?_⟩
  intro answer hmem
  rcases List.mem_append.mp hmem with hmem | hmem
  · exact hsince answer hmem
  · exact he answer (List.mem_singleton.mp hmem).symm

/-- What an entry adds to the textures that were handed out and destroyed. -/
theorem count_concat (trace : List TraceEntry) (e : TraceEntry) (t : TextureId) :
    (uploaded (trace ++ [e])).count t = (uploaded trace).count t + (uploaded [e]).count t ∧
      (destroyed (trace ++ [e])).count t = (destroyed trace).count t + (destroyed [e]).count t := by
  rw [uploaded_append, destroyed_append, List.count_append, List.count_append]
  exact ⟨rfl, rfl⟩

/-- If no texture is handed out while it is live, an outstanding texture is live, and is owed
once. -/
theorem live_of_outstanding (h : Fresh trace) :
    (Outstanding trace t → Live trace t) ∧
      (uploaded trace).count t ≤ (destroyed trace).count t + 1 := by
  induction trace using List.reverseRecOn with
  | nil => exact ⟨fun hlt => absurd hlt (Nat.lt_irrefl 0), Nat.zero_le 1⟩
  | append_singleton trace e ih =>
    obtain ⟨hlive, hcount⟩ := ih h.of_append
    obtain ⟨hup, hdestroy⟩ := count_concat trace e t
    unfold Outstanding at hlive ⊢
    rw [hup, hdestroy]
    by_cases hupload : ∃ icon, e = .call (.upload icon) (some t)
    · obtain ⟨icon, rfl⟩ := hupload
      have hnot : ¬ Live trace t := h trace icon t [] rfl
      have hone : (uploaded [.call (.upload icon) (some t)]).count t = 1 := by simp [uploaded]
      refine ⟨fun _ => ⟨trace, icon, [], rfl, by simp⟩, ?_⟩
      have hpaid := mt hlive hnot
      omega
    · have hnone : (uploaded [e]).count t = 0 := by
        rw [List.count_eq_zero]
        intro ht
        unfold uploaded at ht
        obtain ⟨e', he', heq⟩ := List.mem_filterMap.mp ht
        obtain rfl := List.mem_singleton.mp he'
        split at heq
        · subst heq
          exact hupload ⟨_, rfl⟩
        · cases heq
      by_cases hdestroys : ∃ answer, e = .call (.destroy t) answer
      · obtain ⟨answer, rfl⟩ := hdestroys
        have hone : (destroyed [.call (.destroy t) answer]).count t = 1 := by simp [destroyed]
        exact ⟨fun _ => by omega, by omega⟩
      · refine ⟨fun hlt => (hlive (by omega)).concat fun answer he => hdestroys ⟨answer, he⟩, ?_⟩
        omega

end

/-- If no texture is handed out while it is live, every texture in use is live. -/
theorem Rightful.live {trace : List TraceEntry} (h : Rightful Outstanding trace)
    (hfresh : Fresh trace) : Rightful Live trace := by
  rintro before e after rfl t ht
  exact (live_of_outstanding hfresh.of_append).1 (h before e after rfl t ht)

/-- A texture that is destroyed rightfully was handed out. -/
theorem Rightful.mem_uploaded {trace : List TraceEntry} (h : Rightful Live trace) {t : TextureId}
    (ht : t ∈ destroyed trace) : t ∈ uploaded trace := by
  unfold destroyed at ht
  obtain ⟨e, he, heq⟩ := List.mem_filterMap.mp ht
  obtain ⟨before, after, rfl⟩ := List.append_of_mem he
  have hused : e.used? = some t := by
    split at heq
    · exact heq
    · cases heq
  obtain ⟨past, icon, since, rfl, -⟩ := h before e after rfl t hused
  simp [uploaded]

/-! ## Calls on one renderer -/

/-- On a renderer, all calls were rightful, and what was uploaded is destroyed or held. -/
structure Kept (trace : List TraceEntry) (held : List TextureId) : Prop where
  balance : (uploaded trace).Perm (destroyed trace ++ held)
  rightful : Rightful Outstanding trace

namespace Kept

variable {trace : List TraceEntry} {held : List TextureId}

theorem nil : Kept [] [] :=
  ⟨.nil, fun before e after h => absurd h.symm (by simp)⟩

/-- A held texture is outstanding. -/
theorem outstanding (h : Kept trace held) {t : TextureId} (ht : t ∈ held) :
    Outstanding trace t := by
  have hcount := h.balance.count_eq t
  have hpos := List.count_pos_iff.mpr ht
  rw [List.count_append] at hcount
  unfold Outstanding
  omega

/-- A call that uses nothing but held textures is rightful, whatever the renderer reports. -/
theorem perform {ρ : Type} (R : Renderer ρ) {canvas : Canvas ρ} (h : Kept canvas.trace held)
    {call : Call} (hused : ∀ t, (TraceEntry.call call none).used? = some t → t ∈ held) :
    Rightful Outstanding (canvas.perform R call).trace := by
  have hcall : Rightful Outstanding
      (canvas.trace ++ [.call call (R.perform canvas.renderer call).texture]) := by
    refine rightful_concat.mpr ⟨h.rightful, fun t ht => h.outstanding (hused t ?_)⟩
    cases call <;> exact ht
  have hunused : ∀ e ∈ (R.perform canvas.renderer call).entries, e.used? = none := by
    intro e he
    rcases Response.of_mem_entries he with ⟨failure, rfl⟩ | ⟨event, -, rfl⟩ <;> rfl
  simpa [Canvas.perform] using hcall.append hunused

end Kept

/-- Whatever the renderers answer, all calls are rightful. -/
theorem custody_kept {ρ : Type} :
    Custody (fun _ : Renderer ρ => True) fun canvas held => Kept canvas.trace held where
  perm hheld hc := ⟨custody_balance.perm hheld hc.balance, hc.rightful⟩
  report event he hc := ⟨custody_balance.report event he hc.balance,
    hc.rightful.append (List.forall_mem_singleton.mpr rfl)⟩
  call {R canvas held} _ call hup hdestroy himage hc := by
    refine ⟨custody_balance.call trivial call hup hdestroy himage hc.balance, hc.perform R ?_⟩
    intro t ht
    cases call with
    | drawImage t' size =>
      cases ht
      exact himage t size rfl
    | destroy t' => exact absurd rfl (hdestroy t')
    | _ => cases ht
  upload {R canvas held} _ icon hc :=
    ⟨custody_balance.upload trivial icon hc.balance, hc.perform R fun t ht => by cases ht⟩
  destroy {R canvas held} _ t hc := by
    refine ⟨custody_balance.destroy trivial t hc.balance, hc.perform R ?_⟩
    intro t' ht
    cases ht
    exact List.mem_cons_self

/-! ## Renderers side by side -/

section

variable {ι : Type} [DecidableEq ι] {σ : ι → Type} (R : ∀ i, Renderer (σ i))

/-- One of several renderers that are in use side by side. Each keeps its own trace. -/
def Renderer.among (i : ι) : Renderer (∀ i, Canvas (σ i)) where
  viewport canvases := (R i).viewport (canvases i).renderer
  framebufferScale canvases := (R i).framebufferScale (canvases i).renderer
  surfaceSize canvases := (R i).surfaceSize (canvases i).renderer
  perform canvases call :=
    let response := (R i).perform (canvases i).renderer call
    { response with renderer := Function.update canvases i ((canvases i).perform (R i) call) }

/-- All held textures are from one renderer, and nothing is open with the others. -/
structure HeldFrom (i : ι) (canvases : ∀ i, Canvas (σ i)) (held : List TextureId) : Prop where
  own : Kept (canvases i).trace held
  others : ∀ j, j ≠ i → Kept (canvases j).trace []

theorem HeldFrom.update {i : ι} {canvases : ∀ i, Canvas (σ i)} {held held' : List TextureId}
    (h : HeldFrom i canvases held) {canvas : Canvas (σ i)} (hcanvas : Kept canvas.trace held') :
    HeldFrom i (Function.update canvases i canvas) held' := by
  constructor
  · rw [Function.update_self]
    exact hcanvas
  · intro j hj
    rw [Function.update_of_ne hj]
    exact h.others j hj

/-- While one renderer draws, its calls are rightful, if all held textures are its own. -/
theorem custody_among (i : ι) :
    Custody (· = Renderer.among R i) fun canvas held => HeldFrom i canvas.renderer held where
  perm hheld hc := ⟨custody_kept.perm hheld hc.own, hc.others⟩
  report _ _ hc := hc
  call {R' canvas held} hR call hup hdestroy himage hc := by
    subst hR
    exact hc.update (custody_kept.call trivial call hup hdestroy himage hc.own)
  upload {R' canvas held} hR icon hc := by
    subst hR
    exact hc.update (custody_kept.upload trivial icon hc.own)
  destroy {R' canvas held} hR t hc := by
    subst hR
    exact hc.update (custody_kept.destroy trivial t hc.own)

/-- The renderers at the beginning. -/
def unused (screens : ∀ i, σ i) : ∀ i, Canvas (σ i) :=
  fun i => { renderer := screens i }

/-- A part of a run in which all frames are drawn by one renderer. -/
structure Watch (R : ∀ i, Renderer (σ i)) where
  /-- The renderer that draws. -/
  drawer : ι
  steps : List (Step (∀ i, Canvas (σ i)))
  drawn : ∀ x ∈ steps, ∀ R', x.operation = .draw R' → R' = Renderer.among R drawer

variable {R}

/-- If nothing is held when a watch begins, everything that is held when it ends is from its
renderer. -/
theorem Watch.heldFrom (watch : Watch R) {s : Session (∀ i, Canvas (σ i))} (hwf : s.WellFormed)
    (hheld : s.held = []) (hs : ∀ i, Kept (s.renderer i).trace []) :
    HeldFrom watch.drawer (s.run watch.steps).renderer (s.run watch.steps).held := by
  refine (custody_among R watch.drawer).steps hwf ?_ watch.steps watch.drawn
  rw [hheld]
  exact ⟨hs watch.drawer, fun j _ => hs j⟩

/-- Watches after each other, with nothing held in between: every renderer has what it needs, and if
nothing is held at the end, nothing is open with any of them. -/
theorem kept_watches (screens : ∀ i, σ i) {watches : List (Watch R)}
    (hhandover : ∀ past w, past ++ [w] <+: watches →
      ((Session.start (unused screens)).run (past.flatMap Watch.steps)).held = []) :
    let s := (Session.start (unused screens)).run (watches.flatMap Watch.steps)
    (∀ i, ∃ held, Kept (s.renderer i).trace held) ∧
      (s.held = [] → ∀ i, Kept (s.renderer i).trace []) := by
  induction watches using List.reverseRecOn with
  | nil => exact ⟨fun i => ⟨[], .nil⟩, fun _ i => .nil⟩
  | append_singleton watches w ih =>
    have hwf : ((Session.start (unused screens)).run (watches.flatMap Watch.steps)).WellFormed :=
      Session.wellFormed_run (Session.wellFormed_start _) _
    obtain ⟨-, hclosed⟩ := ih fun past w' h => hhandover past w' (h.trans (List.prefix_append _ _))
    have hnone := hhandover watches w List.prefix_rfl
    have hheld := w.heldFrom hwf hnone (hclosed hnone)
    rw [← Session.run_append] at hheld
    simp only [List.flatMap_append, List.flatMap_singleton]
    constructor
    · intro i
      by_cases hi : i = w.drawer
      · subst hi
        exact ⟨_, hheld.own⟩
      · exact ⟨[], hheld.others i hi⟩
    · intro hnone' i
      by_cases hi : i = w.drawer
      · subst hi
        rw [← hnone']
        exact hheld.own
      · exact hheld.others i hi

end

/-- Textures are used rightfully as long as none is held when another renderer takes over. In every
run, by whichever renderers the frames are drawn, a texture is drawn and destroyed only while it was
handed out more often than destroyed, on all renderers together. Let the run consist of watches,
each with one renderer for all its frames, and let nothing be held, by a stored message or because
it waits to be destroyed, when a watch begins. Then this is true of every renderer by itself. A
renderer that hands out no texture that is live is only told to draw and to destroy textures that it
has handed out and that were not destroyed since. -/
theorem textures_used_rightfully {ι : Type} [DecidableEq ι] {σ : ι → Type}
    (R : ∀ i, Renderer (σ i)) (screens : ∀ i, σ i) (steps : List (Step (∀ i, Canvas (σ i)))) :
    let s := (Session.start (unused screens)).run steps
    (Rightful Outstanding s.trace ∧ (Fresh s.trace → Rightful Live s.trace)) ∧
      ∀ watches : List (Watch R), watches.flatMap Watch.steps = steps →
        (∀ past w, past ++ [w] <+: watches →
          ((Session.start (unused screens)).run (past.flatMap Watch.steps)).held = []) →
        ∀ i,
          let trace := (s.renderer i).trace
          Rightful Outstanding trace ∧ (Fresh trace → Rightful Live trace) := by
  intro s
  constructor
  · have hkept : Kept s.trace s.held := custody_kept.run Kept.nil steps fun _ _ _ _ => trivial
    exact ⟨hkept.rightful, hkept.rightful.live⟩
  · rintro watches rfl hhandover i trace
    obtain ⟨held, hkept⟩ := (kept_watches screens hhandover).1 i
    exact ⟨hkept.rightful, hkept.rightful.live⟩

/-- A message with an icon is queued and drawn by one of two headless renderers. The overlay is
cleared, and the next frame is drawn by the same one or by the other. -/
def pixelSteps (first second : Bool) : List (Step (Bool → Canvas Headless)) :=
  [⟨0, .submit .typeless
      { text := "pixel", duration := 1000, color := Color.green, icon := some pixel }⟩,
    ⟨0, .draw (Renderer.among (fun _ => Headless.renderer) first)⟩, ⟨0, .clear⟩,
    ⟨0, .draw (Renderer.among (fun _ => Headless.renderer) second)⟩]

/-- One renderer draws both frames. -/
def pixelWatch (drawer : Bool) : Watch fun _ : Bool => Headless.renderer where
  drawer := drawer
  steps := pixelSteps drawer drawer
  drawn := by
    intro x hx R' hR'
    simp only [pixelSteps, List.mem_cons, List.not_mem_nil, or_false] at hx
    rcases hx with rfl | rfl | rfl | rfl <;> cases hR' <;> rfl

/-- One renderer clears up before the other one takes over: both use their own textures, though
these have the same number. -/
theorem pixels_apart :
    let screen : Headless := { viewport := ⟨Binary.ofNat 640, Binary.ofNat 480⟩ }
    let s := (Session.start (unused fun _ : Bool => screen)).run
      (pixelSteps true true ++ pixelSteps false false)
    ∀ i, uploaded (s.renderer i).trace = [⟨1⟩] ∧ Rightful Live (s.renderer i).trace := by
  intro screen s i
  obtain ⟨-, hwatches⟩ := textures_used_rightfully (fun _ : Bool => Headless.renderer)
    (fun _ => screen) (pixelSteps true true ++ pixelSteps false false)
  have hrightful := hwatches [pixelWatch true, pixelWatch false] rfl ?_ i
  · have huploaded : uploaded (s.renderer i).trace = [⟨1⟩] := by
      cases i <;> decide +kernel
    refine ⟨huploaded, hrightful.2 (fresh_of_nodup ?_)⟩
    show (uploaded (s.renderer i).trace).Nodup
    rw [huploaded]
    exact List.nodup_singleton _
  · intro past w h
    rcases past with _ | ⟨a, _ | ⟨b, rest⟩⟩
    · rfl
    · obtain ⟨rfl, -⟩ := List.cons_prefix_cons.mp h
      decide +kernel
    · have hlength := h.length_le
      simp at hlength

/-- One renderer hands out a texture, and the overlay is cleared. The other renderer draws the next
frame, and is told to destroy the texture, which it has never made. -/
theorem foreign_texture_destroyed :
    let screen : Headless := { viewport := ⟨Binary.ofNat 640, Binary.ofNat 480⟩ }
    let s := (Session.start (unused fun _ : Bool => screen)).run (pixelSteps true false)
    uploaded (s.renderer false).trace = [] ∧ destroyed (s.renderer false).trace = [⟨1⟩] ∧
      ¬ Rightful Live (s.renderer false).trace := by
  intro screen s
  have huploaded : uploaded (s.renderer false).trace = [] := by decide +kernel
  have hdestroyed : destroyed (s.renderer false).trace = [⟨1⟩] := by decide +kernel
  refine ⟨huploaded, hdestroyed, fun h => ?_⟩
  have hmade : ⟨1⟩ ∈ uploaded (s.renderer false).trace :=
    h.mem_uploaded (by rw [hdestroyed]; exact List.mem_singleton_self _)
  rw [huploaded] at hmade
  cases hmade

end OnScreen
