import OnScreen.Event

/-!
# Renderers

The overlay draws nothing itself. It opens one surface for each message, has the icon and the text
drawn into it, reads the size of the surface back, and places it.

A renderer is a state with three queries and one reaction to calls. What passes between the overlay
and a renderer during a frame is a list of `TraceEntry`s.

* `Call`: what the overlay asks for.
* `Renderer`: how a renderer answers.
* `Canvas`: a renderer in use, and the trace of its use.
-/

namespace OnScreen

/-- A request to a renderer: the methods of `OverlayRenderer` that change it. -/
inductive Call
  /-- Open a surface. The name is unique to a stack and a place in it. -/
  | beginSurface (name : String) (opacity : Single)
  | upload (icon : Icon)
  | drawImage (texture : TextureId) (size : Size Single)
  | drawText (text : String) (color : Rgba) (scale : Single)
  | placeSurface (name : String) (position : Point Single)
  | endSurface
  | destroy (texture : TextureId)

/-- The answer to a call: the renderer afterwards, the texture if the call was an upload that
succeeded, the assertion of the renderer that does not hold, if there is one, and what the renderer
reports. -/
structure Response (ρ : Type) where
  renderer : ρ
  texture : Option TextureId := none
  failure : Option Failure := none
  events : List Event := []

/-- A renderer with states in `ρ` (`OverlayRenderer`). -/
structure Renderer (ρ : Type) where
  /-- The size of the drawable area. -/
  viewport : ρ → Size Single
  /-- The device pixels of a pixel on each axis. -/
  framebufferScale : ρ → Point Single
  /-- The size of all that was drawn into the open surface. -/
  surfaceSize : ρ → Size Single
  perform : ρ → Call → Response ρ

/-- Something that happened during a frame. -/
inductive TraceEntry
  | call (call : Call) (texture : Option TextureId)
  /-- An assertion did not hold. A program that checks its assertions ends here. What follows is
  what one does that was built without them. -/
  | failure (failure : Failure)
  | event (event : Event)

namespace TraceEntry

/-- The calls of a trace, with the texture that each was answered with. -/
def calls (trace : List TraceEntry) : List (Call × Option TextureId) :=
  trace.filterMap fun
    | call c texture => some (c, texture)
    | failure _ | event _ => none

/-- The events of a trace. -/
def events (trace : List TraceEntry) : List Event :=
  trace.filterMap fun
    | call .. | failure _ => none
    | event e => some e

end TraceEntry

/-- What a renderer adds to a trace behind the call that it answers. -/
def Response.entries {ρ : Type} (response : Response ρ) : List TraceEntry :=
  response.failure.toList.map .failure ++ response.events.map .event

theorem Response.of_mem_entries {ρ : Type} {response : Response ρ} {e : TraceEntry}
    (h : e ∈ response.entries) :
    (∃ failure, e = .failure failure) ∨ ∃ event ∈ response.events, e = .event event := by
  rcases List.mem_append.mp h with h | h
  · obtain ⟨failure, -, rfl⟩ := List.mem_map.mp h
    exact Or.inl ⟨failure, rfl⟩
  · obtain ⟨event, hevent, rfl⟩ := List.mem_map.mp h
    exact Or.inr ⟨event, hevent, rfl⟩

/-- What asks for no failures finds no more in the entries than the events. -/
theorem Response.filterMap_entries {ρ α : Type} (response : Response ρ)
    {f : TraceEntry → Option α} (h : ∀ failure, f (.failure failure) = none) :
    response.entries.filterMap f = (response.events.map .event).filterMap f := by
  have hfailures : (response.failure.toList.map TraceEntry.failure).filterMap f = [] := by
    rw [List.filterMap_map, List.filterMap_eq_nil_iff]
    exact fun failure _ => h failure
  unfold entries
  rw [List.filterMap_append, hfailures, List.nil_append]

/-- A renderer in use, and what happened since it was taken up. -/
structure Canvas (ρ : Type) where
  renderer : ρ
  trace : List TraceEntry := []

namespace Canvas

variable {ρ : Type}

/-- The canvas after a call. -/
def perform (R : Renderer ρ) (canvas : Canvas ρ) (call : Call) : Canvas ρ :=
  let response := R.perform canvas.renderer call
  { renderer := response.renderer
    trace := canvas.trace ++ .call call response.texture :: response.entries }

/-- The canvas after an upload, and the texture if it succeeded. -/
def upload (R : Renderer ρ) (canvas : Canvas ρ) (icon : Icon) : Canvas ρ × Option TextureId :=
  (canvas.perform R (.upload icon), (R.perform canvas.renderer (.upload icon)).texture)

/-- The canvas with an event reported. -/
def report (canvas : Canvas ρ) (event : Event) : Canvas ρ :=
  { canvas with trace := canvas.trace ++ [.event event] }

/-- The canvas after several textures were destroyed. -/
def destroyAll (R : Renderer ρ) (canvas : Canvas ρ) (textures : List TextureId) : Canvas ρ :=
  textures.foldl (fun canvas texture => canvas.perform R (.destroy texture)) canvas

end Canvas

namespace Renderer

variable {ρ : Type}

/-- The renderer that lets some uploads fail: those whose numbers, counted from one, are listed.
They do not reach the renderer behind it. -/
def refusing (R : Renderer ρ) (refused : List Nat) : Renderer (ρ × Nat) where
  viewport s := R.viewport s.1
  framebufferScale s := R.framebufferScale s.1
  surfaceSize s := R.surfaceSize s.1
  perform s call :=
    let pass (count : Nat) : Response (ρ × Nat) :=
      let response := R.perform s.1 call
      { response with renderer := (response.renderer, count) }
    match call with
    | .upload _ =>
      if refused.contains (s.2 + 1) then { renderer := (s.1, s.2 + 1) } else pass (s.2 + 1)
    | _ => pass s.2

end Renderer

end OnScreen
