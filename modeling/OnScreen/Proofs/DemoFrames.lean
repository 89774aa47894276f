import OnScreen.Proofs.DemoStacks
import OnScreen.Proofs.Textures

/-!
# Frames of the demo

While the clock stands still and nothing is produced, the frames of the demo repeat. The message
about the frame rate, which has no time at all, is drawn once and then superseded by the next one.

Results:
* `Demo.Shows`: what a frame places, in terms of what it leaves in the stacks.
* `Demo.Holds.frame`: one frame; what it leaves is again what a frame expects.
* `Demo.Holds.frames`: by induction, any number of frames after another one.
* `Demo.Holds.frames_from_start`: any number of frames from the first one on.
* `Demo.holds_start`: the state before the first frame.
* `Demo.Holds.cleared`: the end of a run.
* `Demo.frames_repeat`: a run.
-/

namespace OnScreen

theorem Overlay.enabled_registerAll (overlay : Overlay) (layouts : List StackLayout) :
    (overlay.registerAll layouts).value.enabled = overlay.enabled := by
  induction layouts generalizing overlay with
  | nil => rfl
  | cons layout layouts ih => exact ih _

theorem FrameReport.eq_mk {report : FrameReport} {placements : List Placement} {pruned : Nat}
    (hplacements : report.placements = placements) (hpruned : report.pruned = pruned) :
    report = ⟨placements, pruned⟩ := by
  subst hplacements hpruned
  rfl

theorem Headless.settings_takeSurfaces (r : Headless) : r.takeSurfaces.2.settings = r.settings :=
  rfl

/-- A renderer goes on with its textures when its surfaces are taken. -/
theorem Owns.takeSurfaces {canvas : Canvas Headless} {held : List TextureId}
    (h : Owns canvas held) : Owns { renderer := canvas.renderer.takeSurfaces.2 } held :=
  ⟨h.live, h.nodup, h.fresh, fun _ => List.not_mem_nil⟩

namespace Demo

/-! ## Frames of an overlay -/

/-- The placements of a frame, by the messages that it leaves. There are none if messages are
disabled. -/
structure Shows (options : Options) (icon : Option Icon) (first : Overlay) (screen : Headless)
    (r greeting : Message) (placements : List Placement) : Prop where
  label : placements.map Placement.label =
    if first.enabled then
      labels (rateStack first) ((rateMessage options.interval).text, Binary.ofNat 1)
        ((Demo.greeting icon).text, Binary.ofNat 1)
    else []
  area : placements.map Placement.area =
    if first.enabled then areas screen first [r] greeting else []

/-- The message about the frame rate, as a frame leaves it. -/
def rateLeft (options : Options) (now : Reading) (drawing : Bool) : Message :=
  { rate options.interval now with everDrawn := drawing }

section

variable {options : Options} {icon : Option Icon} {now : Reading} {first overlay : Overlay}
  {screen : Headless} {rates : List Message} {r greeting : Message}

theorem Shows.unique {ps ps' : List Placement} (h : Shows options icon first screen r greeting ps)
    (h' : Shows options icon first screen r greeting ps') : ps = ps' :=
  Placement.eq_of_maps (h.label.trans h'.label.symm) (h.area.trans h'.area.symm)

/-- Of the messages about the frame rate only the new one is pending. -/
theorem filter_rates (rates : List Message) (interval : UInt64) (now : Reading) :
    (rates.map Message.discard ++ [rate interval now]).filter (fun m => m.isPending now) =
      [rate interval now] := by
  have hdiscarded : (rates.map Message.discard).filter (fun m => m.isPending now) = [] := by
    refine List.filter_eq_nil_iff.mpr fun m hm => ?_
    obtain ⟨m, -, rfl⟩ := List.mem_map.mp hm
    rw [Message.isPending_of_not_isLive rfl now]
    exact Bool.false_ne_true
  have hpending : (rate interval now).isPending now = true :=
    (rateMessage interval).isPending_toMessage rateType now
  rw [List.filter_append, hdiscarded, List.nil_append]
  exact List.filter_cons_of_pos hpending

/-- What a frame shows after the message about the frame rate was queued. -/
theorem Stores.shows (h : Stores first (rates.map Message.discard ++ [rate options.interval now])
      greeting overlay)
    (hgreeting : IsOpening icon now greeting)
    (hdefault : first.registry.layout? "" = some (StackLayout.named "")) {greeting' : Message}
    (h' : Stores first [rateLeft options now first.enabled] greeting'
      (overlay.draw Headless.renderer now screen).overlay) :
    Shows options icon first screen (rateLeft options now first.enabled) greeting'
      (overlay.draw Headless.renderer now screen).report.placements := by
  have hpending := filter_rates rates options.interval now
  cases henabled : first.enabled with
  | false =>
    rw [Overlay.placements_of_disabled Headless.renderer (h.enabled.trans henabled)]
    constructor <;> rw [henabled] <;> rfl
  | true =>
    rw [henabled] at h'
    constructor
    · rw [henabled, if_pos rfl, ← shown_rate, ← hgreeting.shown]
      exact h.map_label henabled hpending hgreeting.isPending screen hdefault
    · rw [henabled, if_pos rfl]
      exact h.map_area henabled hpending hgreeting.isPending screen h'

/-- A frame prunes the messages about the frame rate that were there before. -/
theorem Stores.pruned (h : Stores first (rates.map Message.discard ++ [rate options.interval now])
      greeting overlay) {r' greeting' : Message}
    (h' : Stores first [r'] greeting' (overlay.draw Headless.renderer now screen).overlay) :
    (overlay.draw Headless.renderer now screen).report.pruned = rates.length := by
  have hbalance := Overlay.messageTotal_draw Headless.renderer h.wellFormed now screen
  rw [h.messageTotal_eq, h'.messageTotal_eq, List.length_append, List.length_map,
    List.length_singleton, List.length_singleton] at hbalance
  omega

end

/-! ## Frames of the demo -/

/-- The textures that the renderer has live are those that stored messages hold and those that wait
to be destroyed. -/
def Owned (overlay : Overlay) (screen : Headless) : Prop :=
  Owns { renderer := screen } (overlay.registry.orphans ++ overlay.registry.textures)

namespace Owned

variable {overlay : Overlay} {screen : Headless} (h : Owned overlay screen)

include h

theorem submit (hwf : overlay.registry.WellFormed) (now : Reading) (type : MessageType)
    (request : Request) : Owned (overlay.submit now type request).value.1 screen := by
  unfold Owned
  rw [Overlay.orphans_submit]
  exact custody_headless.perm ((Overlay.textures_submit hwf now type request).symm.append_left _) h

theorem clear (hwf : overlay.registry.WellFormed) : Owned overlay.clear.value screen := by
  have hnone : overlay.clear.value.registry.textures = [] :=
    Registry.textures_eq_nil hwf.clear (Registry.message?_clear _)
  have horphans : overlay.clear.value.registry.orphans =
      overlay.registry.orphans ++ overlay.registry.textures := rfl
  unfold Owned
  rw [hnone, horphans, List.append_nil]
  exact h

theorem draw (now : Reading) :
    Owned (overlay.draw Headless.renderer now screen).overlay
      (overlay.draw Headless.renderer now screen).canvas.renderer.takeSurfaces.2 := by
  unfold Owned
  rw [Overlay.draw_orphans, List.nil_append]
  exact (custody_headless.draw rfl overlay now screen h).takeSurfaces

end Owned

/-- The state is as it was at first, but for what is stored and which textures are held. -/
structure Holds (first : State) (rates : List Message) (greeting : Message) (state : State) :
    Prop where
  stores : Stores first.overlay rates greeting state.overlay
  settings : state.renderer.settings = first.renderer.settings
  owned : Owned state.overlay state.renderer

/-- Without producers a frame is what comes of the message about the frame rate. -/
theorem frame_eq {options : Options} (hproducers : options.producers = 0) (number : Nat)
    (now : Reading) (state : State) :
    frame options number now state =
      let queued := (state.overlay.submit now rateType (rateMessage options.interval)).value.1
      let drawn := queued.draw Headless.renderer now state.renderer
      (⟨drawn.overlay, drawn.canvas.renderer.takeSurfaces.2⟩, drawn.report) := by
  unfold frame produce
  rw [hproducers]
  rfl

theorem areas_congr {r r' : Headless} (h : r.settings = r'.settings) : areas r = areas r' := by
  unfold areas areasIn
  rw [Headless.areas_congr h]

theorem Shows.congr {options : Options} {icon : Option Icon} {first : Overlay}
    {screen screen' : Headless} (hsettings : screen.settings = screen'.settings)
    {r greeting : Message} {ps : List Placement}
    (h : Shows options icon first screen r greeting ps) :
    Shows options icon first screen' r greeting ps :=
  ⟨h.label, areas_congr hsettings ▸ h.area⟩

section

variable {options : Options} {icon : Option Icon} {now : Reading} {first state : State}
  {rates : List Message} {greeting : Message}

/-- One frame. -/
theorem Holds.frame (h : Holds first rates greeting state)
    (hrates : ∀ r ∈ rates, r.type = rateType) (hgreeting : IsOpening icon now greeting)
    (hdefault : first.overlay.registry.layout? "" = some (StackLayout.named ""))
    (hproducers : options.producers = 0) (number : Nat) :
    let result := Demo.frame options number now state
    let left := rateLeft options now first.overlay.enabled
    ∃ greeting', greeting.LeftAs first.overlay.enabled greeting' ∧
      Holds first [left] greeting' result.1 ∧ result.2.pruned = rates.length ∧
      Shows options icon first.overlay first.renderer left greeting' result.2.placements := by
  rw [frame_eq hproducers]
  dsimp only
  have hqueued := h.stores.submit hrates hgreeting.type options.interval now
  obtain ⟨greeting', hleft, hstores⟩ := hqueued.draw Headless.renderer
    (filter_rates rates options.interval now) rfl hgreeting.isPending state.renderer
  refine ⟨greeting', hleft, ⟨hstores, ?_, ?_⟩, hqueued.pruned hstores,
    (hqueued.shows hgreeting hdefault hstores).congr h.settings⟩
  · rw [Headless.settings_takeSurfaces]
    exact (Overlay.settings_draw none _ now state.renderer).trans h.settings
  · exact (h.owned.submit h.stores.wellFormed now _ _).draw now

/-- Frames that come after another one all report the same, and leave what they find. -/
theorem Holds.frames {initial : Message}
    (hleft : initial.LeftAs first.overlay.enabled greeting)
    (hgreeting : IsOpening icon now greeting)
    (hdefault : first.overlay.registry.layout? "" = some (StackLayout.named ""))
    (hproducers : options.producers = 0) {placements : List Placement}
    (hshows : Shows options icon first.overlay first.renderer
      (rateLeft options now first.overlay.enabled) greeting placements)
    (number count : Nat)
    (h : Holds first [rateLeft options now first.overlay.enabled] greeting state) :
    let result := Demo.frames options now number count state
    result.2 = List.replicate count ⟨placements, 1⟩ ∧
      Holds first [rateLeft options now first.overlay.enabled] greeting result.1 := by
  induction count generalizing number state with
  | zero => exact ⟨rfl, h⟩
  | succ count ih =>
    obtain ⟨greeting', hleft', hholds, hpruned, hshows'⟩ :=
      h.frame (List.forall_mem_singleton.mpr rfl) hgreeting hdefault hproducers number
    -- The first message is left as it was left before, so the next frame starts where this one did.
    obtain rfl := hleft.eq_of_leftAs hleft'
    obtain ⟨hreports, hholds⟩ := ih (number + 1) hholds
    refine ⟨?_, hholds⟩
    have hfirst : (Demo.frame options number now state).2 = ⟨placements, 1⟩ :=
      FrameReport.eq_mk (hshows'.unique hshows) hpruned
    show (Demo.frame options number now state).2 :: _ = _
    rw [hfirst, List.replicate_succ]
    exact congrArg _ hreports

/-- Only the first frame has nothing to prune. -/
theorem map_range_report (placements : List Placement) (count : Nat) :
    (List.range (count + 1)).map (fun k => FrameReport.mk placements (if k = 0 then 0 else 1)) =
      ⟨placements, 0⟩ :: List.replicate count ⟨placements, 1⟩ := by
  rw [List.range_succ_eq_map, List.map_cons, List.map_map]
  refine congrArg (List.cons _) (List.eq_replicate_iff.mpr ⟨?_, ?_⟩)
  · rw [List.length_map, List.length_range]
  · intro report hreport
    obtain ⟨k, -, rfl⟩ := List.mem_map.mp hreport
    exact congrArg (FrameReport.mk placements) (if_neg (Nat.succ_ne_zero k))

/-- The frames from a state in which only the first message is stored. -/
theorem Holds.frames_from_start (h : Holds first [] (opening icon now) first)
    (hdefault : first.overlay.registry.layout? "" = some (StackLayout.named ""))
    (hproducers : options.producers = 0) :
    ∃ placements : List Placement,
      placements.map Placement.label =
        (if first.overlay.enabled then
          labels (rateStack first.overlay) ((rateMessage options.interval).text, Binary.ofNat 1)
            ((Demo.greeting icon).text, Binary.ofNat 1)
        else []) ∧
      ∀ count,
        let drawn := Demo.frames options now 0 count first
        drawn.2 = (List.range count).map (fun k => ⟨placements, if k = 0 then 0 else 1⟩) ∧
        (0 < count → ∃ r greeting, Holds first [r] greeting drawn.1) := by
  obtain ⟨greeting, hleft, hholds, hpruned, hshows⟩ :=
    h.frame (List.forall_mem_nil _) (isOpening_opening icon now) hdefault hproducers 0
  have hgreeting := (isOpening_opening icon now).of_leftAs hleft
  -- The first frame fixes the placements, and uploads the icon.
  have hrest (count : Nat) := hholds.frames hleft hgreeting hdefault hproducers hshows 1 count
  refine ⟨_, hshows.label, fun count => ?_⟩
  cases count with
  | zero => exact ⟨rfl, fun hcount => absurd hcount (Nat.lt_irrefl 0)⟩
  | succ count =>
    obtain ⟨hreports, hholds⟩ := hrest count
    refine ⟨?_, fun _ => ⟨_, _, hholds⟩⟩
    rw [map_range_report]
    exact congrArg₂ List.cons (FrameReport.eq_mk rfl hpruned) hreports

end

/-! ## The start -/

/-- The configuration with the stacks of the demo, if it lists none. -/
def completed (config : Config) : Config :=
  if config.layouts.isEmpty then { config with layouts := layouts } else config

theorem overlay_start (options : Options) (config : Config) (icon : Option Icon) (now : Reading) :
    (start options config icon now).overlay =
      ((completed config).overlay.value.submit now .typeless (greeting icon)).value.1 := by
  obtain ⟨enabled, layouts, path⟩ := config
  cases layouts <;> rfl

section

variable (options : Options) (config : Config) (icon : Option Icon) (now : Reading)

theorem layout?_start (name : String) :
    (start options config icon now).overlay.registry.layout? name =
      if name = "" then some (StackLayout.named "")
      else StackLayout.first? (completed config).layouts name := by
  rw [overlay_start, Overlay.layout?_submit]
  exact Session.layout?_ofConfig (completed config) () name

theorem wellFormed_start : (start options config icon now).overlay.registry.WellFormed := by
  rw [overlay_start]
  exact Overlay.wellFormed_submit (Session.wellFormed_ofConfig (completed config) ()) _ _ _

/-- There is a stack for the message about the frame rate if the configuration lists one, or none at
all. -/
theorem perf_mem_names_iff :
    "perf" ∈ (start options config icon now).overlay.registry.names ↔
      config.layouts = [] ∨ ∃ layout ∈ config.layouts, layout.name = "perf" := by
  have hne : "perf" ≠ "" := by decide
  rw [Registry.mem_names_iff (wellFormed_start options config icon now).unnamed,
    ← Registry.isSome_layout?, layout?_start, if_neg hne, StackLayout.isSome_first?_iff]
  unfold completed
  cases hlayouts : config.layouts with
  | nil => exact iff_of_true ⟨hne, _, List.mem_cons_self, rfl⟩ (Or.inl rfl)
  | cons layout rest =>
    rw [List.isEmpty_cons, if_neg Bool.false_ne_true, hlayouts]
    simp

theorem enabled_start :
    (start options config icon now).overlay.enabled = config.messagesEnabled := by
  rw [overlay_start, Overlay.enabled_submit]
  refine (Overlay.enabled_registerAll _ _).trans ?_
  unfold completed
  split <;> rfl

/-- At the start only the first message is stored. -/
theorem stores_start :
    Stores (start options config icon now).overlay [] (opening icon now)
      (start options config icon now).overlay where
  wellFormed := wellFormed_start options config icon now
  enabled := rfl
  obscured := rfl
  layout _ := rfl
  toList := by
    intro name stack hs
    have hwf : (completed config).overlay.value.registry.WellFormed :=
      Session.wellFormed_ofConfig (completed config) ()
    have hnone : ∀ id, (completed config).overlay.value.registry.message? id = none :=
      Session.message?_ofConfig (completed config) ()
    have hq : (completed config).overlay.value.Queues now .typeless (greeting icon) := by
      unfold Overlay.Queues
      rfl
    have htarget : (completed config).overlay.value.target (greeting icon) = "" := ite_self _
    rw [overlay_start, Overlay.get?_submit hq, htarget] at hs
    unfold held
    rw [ite_self, List.nil_append]
    split at hs
    · rename_i hname
      have hdefault := Registry.get?_default (completed config).overlay.value.registry
      cases hs
      rw [if_pos hname]
      refine (Stack.toList_enqueue (hwf.keyed _ _ hdefault) _).trans ?_
      rw [Registry.toList_eq_nil hnone hdefault]
      rfl
    · rename_i hname
      rw [if_neg hname]
      exact Registry.toList_eq_nil hnone hs

theorem holds_start :
    Holds (start options config icon now) [] (opening icon now)
      (start options config icon now) where
  stores := stores_start options config icon now
  settings := rfl
  owned := by
    have hwf : (completed config).overlay.value.registry.WellFormed :=
      Session.wellFormed_ofConfig (completed config) ()
    have htextures : (completed config).overlay.value.registry.textures = [] :=
      Registry.textures_eq_nil hwf (Session.message?_ofConfig (completed config) ())
    have horphans : (completed config).overlay.value.registry.orphans = [] :=
      Overlay.orphans_registerAll _ _
    have hnew : Owned (completed config).overlay.value
        { viewport := ⟨options.width, options.height⟩ } := by
      unfold Owned
      rw [htextures, horphans]
      exact ⟨List.Perm.refl _, List.nodup_nil, fun _ ht => absurd ht List.not_mem_nil,
        fun _ => List.not_mem_nil⟩
    rw [overlay_start]
    exact hnew.submit hwf now .typeless (greeting icon)

end

/-! ## Runs -/

/-- What is left in the end, and how it is destroyed. -/
theorem Holds.cleared {first state : State} {r greeting : Message}
    (h : Holds first [r] greeting state) (now : Reading) :
    state.overlay.registry.messages.length = 2 ∧
      state.overlay.clear.events = [.messagesCleared 2] ∧
      state.overlay.clear.value.registry.messages = [] ∧
      (finish now state).1.renderer.liveTextures = [] := by
  have hwf : state.overlay.clear.value.registry.WellFormed := h.stores.wellFormed.clear
  have hnone : ∀ id, state.overlay.clear.value.registry.message? id = none :=
    Registry.message?_clear _
  have hlength := h.stores.length_messages
  refine ⟨hlength, ?_, ?_, ?_⟩
  · show [Event.messagesCleared state.overlay.registry.messages.length] = _
    rw [hlength]
    rfl
  · rw [Registry.messages_eq_flatMap hwf fun name stack => Registry.toList_eq_nil hnone]
    exact List.flatMap_eq_nil_iff.mpr fun _ _ => rfl
  · have htextures : ((finish now state).1.overlay.registry.orphans ++
        (finish now state).1.overlay.registry.textures) = [] :=
      Registry.textures_eq_nil (Overlay.wellFormed_draw Headless.renderer hwf) fun id =>
        Overlay.message?_draw_of_none Headless.renderer hwf (hnone id)
    have howned : Owned (finish now state).1.overlay (finish now state).1.renderer :=
      (h.owned.clear h.stores.wellFormed).draw now
    unfold Owned at howned
    rw [htextures] at howned
    exact howned.live.eq_nil

/-- What a run prints. -/
theorem run_eq (options : Options) (config : Config) (icon : Option Icon) (now : Reading)
    {count : Nat} {report : Nat → FrameReport}
    (h : (frames options now 0 options.frames.toNat (start options config icon now)).2 =
      (List.range count).map report) :
    run options config icon now =
      (List.range count).flatMap fun k => reportLines k (report k) := by
  have hnumbered : ((List.range count).map report).zipIdx =
      (List.range count).map fun k => (report k, k) := by
    rw [List.zipIdx_eq_zip_range', List.length_map, List.length_range, ← List.range_eq_range']
    exact (congrArg _ (List.map_id _).symm).trans List.zip_map'
  unfold run
  dsimp only
  rw [h, hnumbered, List.map_map, List.flatMap]
  rfl

/-- Without producers, and while the clock stands still, the frames of the demo repeat, whatever the
configuration, the icon and the options are. After every frame two messages are stored; the first
frame prunes none, and every later one the message about the frame rate of the frame before. All
frames have the same placements, so the same lines are printed for them: if messages are enabled,
those of both messages at full opacity, the one about the frame rate in its own stack if there is
one and otherwise first in the default stack; and none if messages are disabled. After that the
overlay clears both messages, and the next frame leaves no texture. -/
theorem frames_repeat (options : Options) (config : Config) (icon : Option Icon) (now : Reading)
    (hproducers : options.producers = 0) :
    let first := start options config icon now
    let names := first.overlay.registry.names
    let opening := (greeting icon).text
    let rate := (rateMessage options.interval).text
    let one : Single := Binary.ofNat 1
    ("perf" ∈ names ↔ config.layouts = [] ∨ ∃ layout ∈ config.layouts, layout.name = "perf") ∧
    ∃ placements : List Placement,
      let report (k : Nat) : FrameReport := ⟨placements, if k = 0 then 0 else 1⟩
      placements.map (fun p => (p.stack, p.index, p.text, p.opacity)) =
        (if config.messagesEnabled then
          if "perf" ∈ names then [("", 0, opening, one), ("perf", 0, rate, one)]
          else [("", 0, rate, one), ("", 1, opening, one)]
        else []) ∧
      run options config icon now =
        (List.range options.frames.toNat).flatMap (fun k => reportLines k (report k)) ∧
      ∀ count,
        let drawn := frames options now 0 count first
        drawn.2 = (List.range count).map report ∧
        (0 < count →
          drawn.1.overlay.registry.messages.length = 2 ∧
          drawn.1.overlay.clear.events = [.messagesCleared 2] ∧
          drawn.1.overlay.clear.value.registry.messages = [] ∧
          (finish now drawn.1).1.renderer.liveTextures = []) := by
  obtain ⟨placements, hlabel, hframes⟩ :=
    (holds_start options config icon now).frames_from_start
      (layout?_start options config icon now "") hproducers
  refine ⟨perf_mem_names_iff options config icon now, placements, ?_,
    run_eq options config icon now (hframes _).1,
    fun count => ⟨(hframes count).1, fun hcount => ?_⟩⟩
  · refine hlabel.trans ?_
    rw [enabled_start, labels_rateStack]
  · obtain ⟨r, greeting, hholds⟩ := (hframes count).2 hcount
    exact hholds.cleared now

/-- Two frames without producers. -/
def twoFrames : Options := { frames := 2, producers := 0 }

/-- The texture of an icon is live until the overlay is cleared and a frame drawn. -/
theorem pixel_frames :
    let drawn := frames twoFrames 0 0 2 (start twoFrames {} (some pixel) 0)
    twoFrames.producers = 0 ∧
      drawn.2.map FrameReport.pruned = [0, 1] ∧
      (∀ report ∈ drawn.2, report.placements.map (fun p => (p.stack, p.index, p.text, p.opacity)) =
        [("", 0, "Overlay demo started", Binary.ofNat 1), ("perf", 0, "FPS: 4", Binary.ofNat 1)]) ∧
      drawn.1.overlay.registry.messages.length = 2 ∧
      drawn.1.renderer.liveTextures.length = 1 ∧
      (finish 0 drawn.1).1.renderer.liveTextures = [] := by
  intro drawn
  have hlive : drawn.1.renderer.liveTextures.length = 1 := by decide +kernel
  obtain ⟨hperf, placements, hlabel, -, hframes⟩ :=
    frames_repeat twoFrames {} (some pixel) 0 rfl
  obtain ⟨hreports, hleft⟩ := hframes 2
  obtain ⟨hlength, -, -, hfinished⟩ := hleft (by decide)
  rw [if_pos rfl, if_pos (hperf.mpr (Or.inl rfl))] at hlabel
  have htwo : drawn.2 = [⟨placements, 0⟩, ⟨placements, 1⟩] := hreports
  refine ⟨rfl, ?_, ?_, hlength, hlive, hfinished⟩
  · rw [htwo]
    rfl
  · rw [htwo]
    intro report hreport
    have hplacements : report.placements = placements := by
      simp only [List.mem_cons, List.not_mem_nil, or_false] at hreport
      rcases hreport with rfl | rfl <;> rfl
    have hrate : (rateMessage twoFrames.interval).text = "FPS: 4" := by decide +kernel
    rw [hplacements, hlabel, hrate]
    rfl

end Demo

end OnScreen
