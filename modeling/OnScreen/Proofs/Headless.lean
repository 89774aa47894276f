import OnScreen.Proofs.Custody
import OnScreen.Renderer.Headless

/-!
# The textures of a headless renderer

A headless renderer gives every uploaded image a new number, and reports when it is to destroy a
texture that is not live. Used by an overlay alone, it has exactly the held textures live, and never
reports one.

Results:
* `Owns.upload`, `Owns.destroy`: the calls that have to do with textures.
* `custody_headless`: what holds of single calls, as it is needed for frames.
-/

namespace OnScreen

/-- The live textures of the renderer are the held ones, each once, and no texture was unknown. -/
structure Owns (canvas : Canvas Headless) (held : List TextureId) : Prop where
  live : canvas.renderer.liveTextures.Perm held
  nodup : canvas.renderer.liveTextures.Nodup
  fresh : ∀ t ∈ canvas.renderer.liveTextures, t.number < canvas.renderer.nextTexture
  known : ∀ t, .event (.unknownTexture t) ∉ canvas.trace

namespace Headless

/-- Calls that have nothing to do with textures leave them alone, and do not report any. -/
theorem perform_other (r : Headless) {call : Call} (hup : ∀ icon, call ≠ .upload icon)
    (hdestroy : ∀ t, call ≠ .destroy t) :
    (r.perform call).renderer.liveTextures = r.liveTextures ∧
      (r.perform call).renderer.nextTexture = r.nextTexture ∧
      ∀ t, .unknownTexture t ∉ (r.perform call).events := by
  cases call with
  | upload icon => exact absurd rfl (hup icon)
  | destroy t => exact absurd rfl (hdestroy t)
  | beginSurface name opacity =>
    refine ⟨rfl, rfl, fun t => ?_⟩
    unfold perform beginSurface
    cases r.current <;> simp
  | drawImage texture size => exact ⟨rfl, rfl, fun t => List.not_mem_nil⟩
  | drawText text color scale => exact ⟨rfl, rfl, fun t => List.not_mem_nil⟩
  | placeSurface name position =>
    unfold perform placeSurface
    cases r.current with
    | none => exact ⟨rfl, rfl, fun t => by simp⟩
    | some surface =>
      dsimp only
      split
      · exact ⟨rfl, rfl, fun t => List.not_mem_nil⟩
      · exact ⟨rfl, rfl, fun t => by simp⟩
  | endSurface =>
    refine ⟨?_, ?_, fun t => List.not_mem_nil⟩ <;>
    · unfold perform endSurface
      cases r.current <;> rfl

/-- An upload fails, or is answered with the next texture. -/
theorem upload_cases (r : Headless) (icon : Icon) :
    (r.upload icon).events = [] ∧
      (((r.upload icon).texture = none ∧
          (r.upload icon).renderer.liveTextures = r.liveTextures ∧
          (r.upload icon).renderer.nextTexture = r.nextTexture) ∨
        ((r.upload icon).texture = some ⟨r.nextTexture⟩ ∧
          (r.upload icon).renderer.liveTextures = r.liveTextures ++ [⟨r.nextTexture⟩] ∧
          (r.upload icon).renderer.nextTexture = r.nextTexture + 1)) := by
  unfold upload
  dsimp only
  split
  · exact ⟨rfl, Or.inl ⟨rfl, rfl, rfl⟩⟩
  · exact ⟨rfl, Or.inr ⟨rfl, rfl, rfl⟩⟩

/-- A texture that is live is destroyed, and nothing reported. -/
theorem destroy_of_mem (r : Headless) {t : TextureId} (h : t ∈ r.liveTextures) :
    r.destroy t =
      { renderer :=
          { r with liveTextures := r.liveTextures.filter fun t' => decide (t' ≠ t) } } :=
  if_pos (List.contains_iff_mem.mpr h)

end Headless

/-- A call that reports no unknown texture adds none to the trace. -/
theorem Owns.known_perform {canvas : Canvas Headless} {held : List TextureId}
    (h : Owns canvas held) {c : Call}
    (hevents : ∀ t, .unknownTexture t ∉ (canvas.renderer.perform c).events) :
    ∀ t, .event (.unknownTexture t) ∉ (canvas.perform Headless.renderer c).trace := by
  intro t ht
  rcases List.mem_append.mp ht with ht | ht
  · exact h.known t ht
  · rcases List.mem_cons.mp ht with ht | ht
    · cases ht
    · rcases Response.of_mem_entries ht with ⟨failure, heq⟩ | ⟨e, he, heq⟩
      · cases heq
      · cases heq
        exact hevents t he

theorem Owns.upload {canvas : Canvas Headless} {held : List TextureId} (h : Owns canvas held)
    (icon : Icon) :
    Owns (canvas.upload Headless.renderer icon).1
      ((canvas.upload Headless.renderer icon).2.toList ++ held) := by
  have hcanvas : (canvas.upload Headless.renderer icon).1.renderer =
      (canvas.renderer.upload icon).renderer := rfl
  have htexture : (canvas.upload Headless.renderer icon).2 =
      (canvas.renderer.upload icon).texture := rfl
  obtain ⟨hevents, hcases⟩ := canvas.renderer.upload_cases icon
  have hknown : ∀ t, .event (.unknownTexture t) ∉
      (canvas.upload Headless.renderer icon).1.trace := by
    apply h.known_perform
    intro t
    show _ ∉ (canvas.renderer.upload icon).events
    rw [hevents]
    exact List.not_mem_nil
  rw [htexture]
  rcases hcases with ⟨hnone, hlive, hnext⟩ | ⟨hsome, hlive, hnext⟩
  · rw [hnone]
    refine ⟨?_, ?_, ?_, hknown⟩
    · rw [hcanvas, hlive]
      exact h.live
    · rw [hcanvas, hlive]
      exact h.nodup
    · rw [hcanvas, hlive, hnext]
      exact h.fresh
  · rw [hsome]
    refine ⟨?_, ?_, ?_, hknown⟩
    · rw [hcanvas, hlive]
      exact (h.live.append_right _).trans List.perm_append_comm
    · rw [hcanvas, hlive, (List.perm_append_singleton _ _).nodup_iff]
      refine List.nodup_cons.mpr ⟨fun hmem => ?_, h.nodup⟩
      exact Nat.lt_irrefl _ (h.fresh _ hmem)
    · rw [hcanvas, hlive, hnext]
      intro t ht
      rcases List.mem_append.mp ht with ht | ht
      · exact Nat.lt_succ_of_lt (h.fresh t ht)
      · rw [List.mem_singleton] at ht
        subst ht
        exact Nat.lt_succ_self _

/-- A held texture is known to the renderer, and can be destroyed. -/
theorem Owns.destroy {canvas : Canvas Headless} {t : TextureId} {held : List TextureId}
    (h : Owns canvas (t :: held)) : Owns (canvas.perform Headless.renderer (.destroy t)) held := by
  have hcanvas : (canvas.perform Headless.renderer (.destroy t)).renderer =
      (canvas.renderer.destroy t).renderer := rfl
  have hdestroy := canvas.renderer.destroy_of_mem (h.live.mem_iff.mpr List.mem_cons_self)
  have hnot : t ∉ held := (List.nodup_cons.mp (h.live.nodup_iff.mp h.nodup)).1
  have hothers : (t :: held).filter (fun t' => decide (t' ≠ t)) = held := by
    rw [List.filter_cons_of_neg (by simp), List.filter_eq_self]
    intro t' ht'
    exact decide_eq_true fun heq => hnot (heq ▸ ht')
  rw [hdestroy] at hcanvas
  refine ⟨?_, ?_, ?_, h.known_perform ?_⟩
  · rw [hcanvas]
    have hfilter := h.live.filter fun t' => decide (t' ≠ t)
    rw [hothers] at hfilter
    exact hfilter
  · rw [hcanvas]
    exact h.nodup.filter _
  · rw [hcanvas]
    intro t' ht'
    exact h.fresh t' (List.mem_filter.mp ht').1
  · intro t'
    show _ ∉ (canvas.renderer.destroy t).events
    rw [hdestroy]
    exact List.not_mem_nil

/-- A headless renderer that is used for nothing else knows every texture that is destroyed. -/
theorem custody_headless : Custody (· = Headless.renderer) Owns where
  perm hheld hc := ⟨hc.live.trans hheld, hc.nodup, hc.fresh, hc.known⟩
  report event he hc := by
    refine ⟨hc.live, hc.nodup, hc.fresh, fun t ht => ?_⟩
    rcases List.mem_append.mp ht with ht | ht
    · exact hc.known t ht
    · rw [List.mem_singleton] at ht
      cases ht
      exact he ⟨t, rfl⟩
  call {R canvas held} hR call hup hdestroy _ hc := by
    subst hR
    obtain ⟨hlive, hnext, hevents⟩ := canvas.renderer.perform_other hup hdestroy
    have hcanvas : (canvas.perform Headless.renderer call).renderer =
        (canvas.renderer.perform call).renderer := rfl
    refine ⟨?_, ?_, ?_, hc.known_perform hevents⟩
    · rw [hcanvas, hlive]
      exact hc.live
    · rw [hcanvas, hlive]
      exact hc.nodup
    · rw [hcanvas, hlive, hnext]
      exact hc.fresh
  upload hR icon hc := by
    subst hR
    exact hc.upload icon
  destroy hR t hc := by
    subst hR
    exact hc.destroy

end OnScreen
