import Mathlib.Data.List.Perm.Basic
import OnScreen.Proofs.Accumulation
import OnScreen.Proofs.Icons
import OnScreen.Proofs.Isolation

/-!
# Frames settle

The first frame after something has happened may change what is stored: messages become drawn, icons
are uploaded, and superseded messages go. The frame after it, at the same reading, finds nothing but
messages that were drawn, and drops those whose time is up. From then on nothing changes any more,
and every frame shows the same.

Results:
* `Message.Settled`, `Overlay.settled_draw`: what a frame that draws leaves.
* `Stack.entries_draw_of_settled`: a frame takes settled messages away, and changes none.
* `Stack.placements_congr`, `flatMap_placements_congr`: what the placements of a headless renderer
  depend on.
* `Overlay.placedIds_eq_filter`, `Overlay.walkIds_draw`: the ids in the order of frames.
* `Session.frames_settle`: three frames at one reading.
-/

namespace OnScreen

variable {ρ : Type} (R : Renderer ρ)

/-! ## Settled messages -/

namespace Message

/-- The message is live and was drawn, and no icon of it waits. -/
structure Settled (m : Message) : Prop where
  live : m.isLive = true
  drawn : m.everDrawn = true
  picture : m.picture.icon? = none

variable {m m' : Message}

/-- A settled message is pending as long as there is time left. -/
theorem Settled.isPending_eq (h : m.Settled) (now : Reading) :
    m.isPending now = decide (0 < m.timeLeft now) := by
  unfold isPending isExpired
  rw [h.live, h.drawn, Bool.true_or, Bool.and_true, Bool.true_and, ← decide_not,
    decide_eq_decide]
  exact Int64.not_le

/-- A drawing leaves a settled message as it is. -/
theorem Settled.eq_of_keptAs (h : m.Settled) {drawing : Bool} (hkept : m.KeptAs drawing m')
    (hpicture : m'.picture = m.picture) : m' = m := by
  rw [hkept.fields, hpicture, h.drawn, Bool.true_or, ← h.drawn]

theorem KeptAs.timeLeft_eq {drawing : Bool} (hkept : m.KeptAs drawing m') (now : Reading) :
    m'.timeLeft now = m.timeLeft now := by
  rw [hkept.fields]
  rfl

end Message

/-- Every stored message is settled. -/
def Overlay.Settled (overlay : Overlay) : Prop :=
  ∀ id m, overlay.registry.message? id = some m → m.Settled

/-- A frame that draws leaves settled messages. -/
theorem Overlay.settled_draw {overlay : Overlay} (h : overlay.registry.WellFormed)
    (henabled : overlay.enabled = true) (now : Reading) (renderer : ρ) :
    (overlay.draw R now renderer).overlay.Settled := by
  intro id m' hm'
  obtain ⟨m, hm, hpending, hkept⟩ := message?_draw_eq_some R h hm'
  have hplaced : id ∈ (overlay.drawn R now renderer).map Prod.fst := by
    rw [map_fst_drawn, mem_placedIds_iff R h]
    exact ⟨henabled, m, hm, hpending⟩
  obtain ⟨⟨id, d⟩, hd, rfl⟩ := List.mem_map.mp hplaced
  obtain ⟨-, hafter, hanswered⟩ := of_mem_drawn h hd
  obtain rfl : d.after = m' := Option.some.inj (hafter.symm.trans hm')
  refine ⟨?_, ?_, ?_⟩
  · rw [hkept.isLive]
    exact Message.isLive_of_isPending hpending
  · rw [hkept.fields, henabled]
    exact Bool.or_true _
  · rw [hanswered.picture]
    exact Picture.icon?_answered _ _

/-! ## The turn of a stack -/

namespace Stack

variable {R} {stack : Stack} {frame : FrameSettings} {canvas : Canvas ρ}

/-- A visit leaves a settled message as it is, if it keeps it. -/
theorem result_of_settled {v : Visited (Pass ρ)} (hv : v ∈ stack.passVisits R frame canvas)
    (hpending : v.message.isPending frame.now = true) (hs : v.message.Settled) :
    v.result = v.message := by
  have hkept := result_of_mem_passVisits hv hpending
  refine hs.eq_of_keptAs hkept ?_
  cases hdrawing : frame.drawing with
  | false => exact hkept.picture hdrawing
  | true =>
    rw [picture_of_mem_passVisits hv hpending hdrawing]
    exact Picture.answered_of_icon?_eq_none hs.picture _

/-- Of settled messages, a frame leaves the pending ones as they are. -/
theorem entries_draw_of_settled (hs : ∀ e ∈ stack.messages.entries, e.2.Settled) :
    (stack.draw R frame canvas).stack.messages.entries =
      stack.messages.entries.filter fun e => e.2.isPending frame.now := by
  have hsame : ∀ v ∈ (stack.passVisits R frame canvas).filter fun v =>
      v.message.isPending frame.now, (v.key, v.result) = v.entry := by
    intro v hv
    obtain ⟨hv, hpending⟩ := List.mem_filter.mp hv
    have hmem := (inOrder_perm _ _).mem_iff.mp (mem_of_mem_visits hv)
    rw [result_of_settled hv hpending (hs _ hmem)]
    rfl
  have hentries : keptBy (stack.passVisits R frame canvas) =
      (inOrder stack.layout.reversed stack.messages.entries).filter
        fun e => e.2.isPending frame.now := by
    unfold keptBy
    rw [filter_isKept_passVisits, List.map_congr_left hsame,
      ← map_entry_passVisits R stack frame canvas, List.filter_map]
    rfl
  rw [draw_entries, hentries, ← inOrder_filter, inOrder_inOrder]

/-- They are the pending messages of the next frame at the same reading. -/
theorem pendingMessages_draw_of_settled (frame : FrameSettings)
    (hs : ∀ e ∈ stack.messages.entries, e.2.Settled) :
    (stack.draw R frame canvas).stack.pendingMessages frame.now =
      stack.pendingMessages frame.now := by
  unfold pendingMessages pendingEntries
  rw [draw_layout, entries_draw_of_settled hs, inOrder_filter, List.filter_filter]
  simp only [Bool.and_self]

end Stack

/-! ## Placements of a headless renderer -/

/-- What is placed in a stack depends on its layout and its pending messages, and on the settings of
the renderer. -/
theorem Stack.placements_congr (viewport? : Option (Size Single)) {stack stack' : Stack}
    {frame : FrameSettings} {canvas canvas' : Canvas Headless}
    (hlayout : stack.layout = stack'.layout)
    (hpending : stack.pendingMessages frame.now = stack'.pendingMessages frame.now)
    (hsettings : canvas.renderer.settings = canvas'.renderer.settings) :
    (stack.draw (Headless.rendererIn viewport?) frame canvas).report.placements =
      (stack'.draw (Headless.rendererIn viewport?) frame canvas').report.placements := by
  have hpending' : (stack.draw (Headless.rendererIn viewport?) frame canvas).report.placements =
      (stack'.draw (Headless.rendererIn viewport?) frame canvas).report.placements := by
    rw [placements_eq_foldl stack canvas (.refl id _),
      placements_eq_foldl stack' canvas (.refl id _)]
    unfold passVisit passStart
    rw [hlayout, hpending]
  -- the same stack is drawn on both canvases
  have hstack : stack'.Like .isolation stack' := .refl (fun _ => rfl) (fun _ => trivial) stack'
  have hcanvas : canvas.BothSet canvas'.renderer.settings canvas' := ⟨hsettings, rfl⟩
  obtain ⟨-, hreport, -⟩ := (Headless.parallel canvas'.renderer.settings viewport?).draw
    Sense.lawful_isolation (rfl : frame.now = frame.now) hstack hcanvas frame.drawing
    frame.obscured
  exact hpending'.trans (congrArg FrameReport.placements hreport)

/-- Stacks of the same layouts and pending messages are placed the same, one after the other. -/
theorem flatMap_placements_congr (viewport? : Option (Size Single)) (settings : FrameSettings)
    {entries entries' : List (String × Stack)}
    (hentries : List.Forall₂ (fun e e' => e.2.layout = e'.2.layout ∧
      e.2.pendingMessages settings.now = e'.2.pendingMessages settings.now) entries entries')
    {canvas canvas' : Canvas Headless}
    (hsettings : canvas.renderer.settings = canvas'.renderer.settings) :
    (turns (Headless.rendererIn viewport?) settings canvas entries).flatMap
        (fun t => (t.drawn (Headless.rendererIn viewport?) settings).report.placements) =
      (turns (Headless.rendererIn viewport?) settings canvas' entries').flatMap
        fun t => (t.drawn (Headless.rendererIn viewport?) settings).report.placements := by
  induction hentries generalizing canvas canvas' with
  | nil => rfl
  | @cons e e' rest rest' he _ ih =>
    obtain ⟨hlayout, hpending⟩ := he
    rw [turns, turns, List.flatMap_cons, List.flatMap_cons]
    refine congrArg₂ (· ++ ·) (Stack.placements_congr viewport? hlayout hpending hsettings)
      (ih ?_)
    rw [Stack.settings_draw, Stack.settings_draw]
    exact hsettings

/-! ## Ids in the order of frames -/

/-- The ids of all stored messages, stack by stack, in the order in which frames visit them. -/
def Registry.walkIds (registry : Registry) : List MessageId :=
  registry.entries.flatMap fun e =>
    (Stack.inOrder e.2.layout.reversed e.2.messages.keys).map (MessageId.mk e.1)

/-- A message that is still to be drawn at this reading is stored under the id. -/
def Overlay.isPending (overlay : Overlay) (now : Reading) (id : MessageId) : Bool :=
  (overlay.registry.message? id).any fun m => m.isPending now

theorem Registry.walkIds_perm (registry : Registry) : registry.walkIds.Perm registry.ids :=
  List.Perm.flatMap_left _ fun _ _ => (Stack.inOrder_perm _ _).map _

namespace Overlay

variable {R} {overlay : Overlay}

/-- A frame that draws places the pending messages in their order. -/
theorem placedIds_eq_filter (h : overlay.registry.WellFormed) (henabled : overlay.enabled = true)
    (now : Reading) (renderer : ρ) :
    overlay.placedIds R now renderer =
      overlay.registry.walkIds.filter fun id => overlay.isPending now id := by
  rw [placedIds_eq]
  unfold Registry.walkIds
  rw [List.filter_flatMap]
  refine List.flatMap_congr fun e he => ?_
  have hs := (Registry.get?_iff_mem h.unnamed).mpr he
  unfold OrderedMap.keys Stack.pendingEntries
  rw [if_pos henabled, Stack.inOrder_map, List.map_map, List.filter_map]
  refine congrArg (List.map _) (List.filter_congr fun e' he' => ?_)
  have hm : overlay.registry.message? ⟨e.1, e'.1⟩ = some e'.2 := by
    rw [Registry.message?_of_get? hs, OrderedMap.find?_eq_some_iff]
    exact (Stack.inOrder_perm _ _).mem_iff.mp he'
  show _ = (overlay.registry.message? ⟨e.1, e'.1⟩).any _
  rw [hm]
  rfl

/-- A frame that draws leaves the messages that it places, in the same order. -/
theorem walkIds_draw (henabled : overlay.enabled = true) (now : Reading) (renderer : ρ) :
    (overlay.draw R now renderer).overlay.registry.walkIds =
      overlay.placedIds R now renderer := by
  unfold Registry.walkIds
  rw [placedIds_eq, draw_registry_entries, List.flatMap_map,
    ← map_turns R (overlay.settings now) (overlay.startCanvas R renderer) overlay.registry.entries,
    List.flatMap_map]
  refine List.flatMap_congr fun t _ => ?_
  have hkeys := t.stack.draw_keys R (overlay.settings now) t.canvas
  unfold Stack.pendingEntries Turn.drawn
  rw [if_pos henabled, Stack.draw_layout, hkeys, Stack.inOrder_map, Stack.inOrder_filter,
    List.map_map]
  rfl

/-- A frame removes as many messages as are not pending. -/
theorem draw_pruned_eq_filter (h : overlay.registry.WellFormed) (now : Reading) (renderer : ρ) :
    (overlay.draw R now renderer).report.pruned =
      (overlay.registry.walkIds.filter fun id => !overlay.isPending now id).length := by
  rw [draw_pruned R h, (overlay.registry.walkIds_perm.filter _).length_eq]
  refine congrArg List.length (List.filter_congr fun id hid => ?_)
  obtain ⟨m, hm⟩ := Option.isSome_iff_exists.mp (h.mem_ids_iff.mp hid)
  unfold isPending
  rw [hm]
  cases hp : m.isPending now with
  | false =>
    rw [message?_draw_of_not_pending R h hm hp, Option.any_some, hp]
    rfl
  | true =>
    obtain ⟨m', hm', -⟩ := message?_draw_of_pending R renderer h hm hp
    rw [hm', Option.any_some, hp]
    rfl

/-! ## Frames of settled messages -/

/-- A message with time left at this reading is stored under the id. -/
def hasTimeLeft (overlay : Overlay) (now : Reading) (id : MessageId) : Bool :=
  (overlay.registry.message? id).any fun m => decide (0 < m.timeLeft now)

/-- A frame does not change the time that is left of a message that it places. -/
theorem hasTimeLeft_draw (h : overlay.registry.WellFormed) {now : Reading} {renderer : ρ}
    {id : MessageId} (hid : id ∈ overlay.placedIds R now renderer) :
    (overlay.draw R now renderer).overlay.hasTimeLeft now id = overlay.hasTimeLeft now id := by
  obtain ⟨-, m, hm, hpending⟩ := (mem_placedIds_iff R h).mp hid
  obtain ⟨m', hm', hkept⟩ := message?_draw_of_pending R renderer h hm hpending
  unfold hasTimeLeft
  rw [hm, hm', Option.any_some, Option.any_some, hkept.timeLeft_eq]

namespace Settled

variable (hs : overlay.Settled)

include hs

theorem isPending_eq (now : Reading) (id : MessageId) :
    overlay.isPending now id = overlay.hasTimeLeft now id := by
  unfold isPending hasTimeLeft
  cases hm : overlay.registry.message? id with
  | none => rfl
  | some m => rw [Option.any_some, Option.any_some, (hs id m hm).isPending_eq]

variable (h : overlay.registry.WellFormed)

include h

/-- No icon is uploaded. -/
theorem not_isUpload {now : Reading} {renderer : ρ} {c : Call × Option TextureId}
    (hc : c ∈ (overlay.draw R now renderer).canvas.calls) : c.1.isUpload = false := by
  cases hdestruction : c.1.isDestruction with
  | true =>
    cases hcall : c.1 with
    | destroy t => rfl
    | _ =>
      rw [hcall] at hdestruction
      cases hdestruction
  | false =>
    have hdrawn : c ∈ (overlay.drawn R now renderer).flatMap fun e => e.2.calls := by
      rw [← drawn_calls, List.mem_filter]
      exact ⟨hc, by rw [hdestruction]; rfl⟩
    obtain ⟨⟨id, d⟩, hd, hc⟩ := List.mem_flatMap.mp hdrawn
    obtain ⟨hbefore, -, -⟩ := of_mem_drawn h hd
    unfold Drawing.calls at hc
    rw [(hs id _ hbefore).picture] at hc
    simp only [Option.toList_none, List.map_nil, List.append_nil, List.mem_append, List.mem_cons,
      List.mem_map, List.not_mem_nil, or_false] at hc
    rcases hc with (rfl | ⟨texture, -, rfl⟩) | (rfl | rfl | rfl) <;> rfl

/-- What is left after a frame is not due at its reading. -/
theorem not_isExpired {now : Reading} {renderer : ρ} {id : MessageId} {m : Message}
    (hm : (overlay.draw R now renderer).overlay.registry.message? id = some m) :
    m.isExpired (m.timeLeft now) = false := by
  obtain ⟨m₀, hm₀, hpending, hkept⟩ := message?_draw_eq_some R h hm
  rw [(hs id m₀ hm₀).isPending_eq, decide_eq_true_eq, ← hkept.timeLeft_eq] at hpending
  unfold Message.isExpired
  rw [decide_eq_false (Int64.not_le.mpr hpending), Bool.false_and]

/-- Another frame at the same reading places the same, on a headless renderer with the same
settings. -/
theorem placements_draw_draw (viewport? : Option (Size Single)) (now : Reading)
    {screen screen' : Headless} (hsettings : screen.settings = screen'.settings) :
    ((overlay.draw (Headless.rendererIn viewport?) now screen).overlay.draw
        (Headless.rendererIn viewport?) now screen').report.placements =
      (overlay.draw (Headless.rendererIn viewport?) now screen).report.placements := by
  have hentries : List.Forall₂ (fun e e' => e.2.layout = e'.2.layout ∧
      e.2.pendingMessages now = e'.2.pendingMessages now) overlay.registry.entries
      (overlay.draw (Headless.rendererIn viewport?) now screen).overlay.registry.entries := by
    rw [draw_registry_entries, ← map_turns (Headless.rendererIn viewport?) (overlay.settings now)
      (overlay.startCanvas (Headless.rendererIn viewport?) screen) overlay.registry.entries,
      List.forall₂_map_left_iff, List.forall₂_map_right_iff]
    refine List.forall₂_same.mpr fun t ht => ⟨rfl, ?_⟩
    refine (Stack.pendingMessages_draw_of_settled (overlay.settings now) ?_).symm
    intro e he
    have hstack := (Registry.get?_iff_mem h.unnamed).mpr
      (mem_entries_of_mem_frameTurns (Headless.rendererIn viewport?) ht)
    refine hs ⟨t.name, e.1⟩ e.2 ?_
    rw [Registry.message?_of_get? hstack, OrderedMap.find?_eq_some_iff]
    exact he
  rw [draw_placements, draw_placements]
  refine (flatMap_placements_congr viewport? (overlay.settings now) hentries ?_).symm
  rw [settings_startCanvas, settings_startCanvas]
  exact hsettings

end Settled

end Overlay

/-! ## Three frames -/

namespace Session

/-- Frames settle. Of three frames at one reading, drawn by a headless renderer one after the other
with nothing in between, the second places those messages of the first that have time left, in the
same order, and counts the others as pruned. The third places the same as the second and prunes
nothing. Neither of them uploads anything, and the messages that the second one leaves are live and
drawn, and not to be dropped. -/
theorem frames_settle (initial : ρ) (steps : List (Step ρ)) (screen : Headless) (now : Reading)
    (henabled : ((start initial).run steps).overlay.enabled = true) :
    let R := Headless.renderer
    let overlay := ((start initial).run steps).overlay
    let first := overlay.draw R now screen
    let second := first.overlay.draw R now first.canvas.renderer
    let third := second.overlay.draw R now second.canvas.renderer
    let placed := overlay.placed R now screen
    let placed' := first.overlay.placed R now first.canvas.renderer
    (placed.map Prod.snd = first.report.placements ∧
      placed'.map Prod.snd = second.report.placements) ∧
    placed'.map Prod.fst = (placed.map Prod.fst).filter (fun id => overlay.hasTimeLeft now id) ∧
    second.report.pruned =
      ((placed.map Prod.fst).filter fun id => !overlay.hasTimeLeft now id).length ∧
    third.report = { placements := second.report.placements, pruned := 0 } ∧
    (∀ c ∈ second.canvas.calls ++ third.canvas.calls, c.1.isUpload = false) ∧
    ∀ id m, second.overlay.registry.message? id = some m →
      m.lifecycle = .live ∧ m.everDrawn = true ∧ m.isExpired (m.timeLeft now) = false := by
  intro R overlay first second third placed placed'
  have hwf : overlay.registry.WellFormed := wellFormed_run (wellFormed_start initial) steps
  have hwf₁ : first.overlay.registry.WellFormed := Overlay.wellFormed_draw R hwf
  have hwf₂ : second.overlay.registry.WellFormed := Overlay.wellFormed_draw R hwf₁
  have hs₁ : first.overlay.Settled := Overlay.settled_draw R hwf henabled now screen
  have hs₂ : second.overlay.Settled := Overlay.settled_draw R hwf₁ henabled now _
  have hids : first.overlay.registry.walkIds = placed.map Prod.fst :=
    Overlay.walkIds_draw henabled now screen
  -- what the second frame finds pending are the messages of the first that have time left
  have hpending : ∀ id ∈ placed.map Prod.fst,
      first.overlay.isPending now id = overlay.hasTimeLeft now id := fun id hid =>
    (hs₁.isPending_eq now id).trans (Overlay.hasTimeLeft_draw hwf hid)
  refine ⟨⟨Overlay.map_snd_placed R _ _ _, Overlay.map_snd_placed R _ _ _⟩, ?_, ?_, ?_, ?_, ?_⟩
  · have hplaced' := Overlay.placedIds_eq_filter (R := R) hwf₁ henabled now first.canvas.renderer
    rw [hids] at hplaced'
    exact hplaced'.trans (List.filter_congr hpending)
  · rw [Overlay.draw_pruned_eq_filter hwf₁, hids]
    exact congrArg List.length
      (List.filter_congr fun id hid => congrArg Bool.not (hpending id hid))
  · have hplacements : third.report.placements = second.report.placements :=
      hs₁.placements_draw_draw hwf₁ none now
        (Overlay.settings_draw none first.overlay now first.canvas.renderer).symm
    have hpruned : third.report.pruned = 0 := by
      rw [Overlay.draw_pruned_eq_filter hwf₂, List.length_eq_zero_iff, List.filter_eq_nil_iff]
      intro id hid
      have hstored := hwf₂.mem_ids_iff.mp (second.overlay.registry.walkIds_perm.mem_iff.mp hid)
      obtain ⟨m, hm⟩ := Option.isSome_iff_exists.mp hstored
      unfold Overlay.isPending Message.isPending
      rw [hm, Option.any_some, (hs₂ id m hm).live, hs₁.not_isExpired hwf₁ hm]
      decide
    exact congrArg₂ FrameReport.mk hplacements hpruned
  · intro c hc
    rcases List.mem_append.mp hc with hc | hc
    · exact hs₁.not_isUpload hwf₁ hc
    · exact hs₂.not_isUpload hwf₂ hc
  · intro id m hm
    have hm' := hs₂ id m hm
    exact ⟨of_decide_eq_true hm'.live, hm'.drawn, hs₁.not_isExpired hwf₁ hm⟩

/-- A message without any time is placed by one frame, and one that lasts by all of them. -/
theorem flash_settles :
    let screen : Headless := { viewport := ⟨Binary.ofNat 640, Binary.ofNat 480⟩ }
    let flash : Request := { text := "flash", duration := 0, color := Color.green }
    let overlay :=
      ((start screen).run [⟨0, .submit .typeless flash⟩, ⟨0, .submit .typeless oneSecond⟩]).overlay
    let R := Headless.renderer
    let first := overlay.draw R 0 screen
    let second := first.overlay.draw R 0 first.canvas.renderer
    let third := second.overlay.draw R 0 second.canvas.renderer
    first.report.texts = ["flash", "saved"] ∧ second.report.pruned = 1 ∧
      third.report = { placements := second.report.placements, pruned := 0 } := by
  intro screen flash
  have hsettle := frames_settle screen
    [⟨0, .submit .typeless flash⟩, ⟨0, .submit .typeless oneSecond⟩] screen 0 rfl
  dsimp only at hsettle ⊢
  obtain ⟨-, -, hpruned, hthird, -⟩ := hsettle
  exact ⟨by decide +kernel, hpruned.trans (by decide +kernel), hthird⟩

end Session

end OnScreen
