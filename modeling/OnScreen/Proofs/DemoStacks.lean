import OnScreen.Demo
import OnScreen.Proofs.Accounting
import OnScreen.Proofs.Contents
import OnScreen.Proofs.HiddenFrames
import OnScreen.Proofs.Measuring
import OnScreen.Proofs.Renewal

/-!
# What the stacks of the demo hold

Without producers the demo queues one message at the start and one about the frame rate before every
frame. The latter is typed, so it supersedes the one of the frame before, and both kinds are where a
frame places them: the first message in the default stack, the other in a stack of its own if there
is one, and otherwise before the first message.

Results:
* `Demo.IsOpening.shown`: while the clock stands still the first message neither fades nor expires.
* `Demo.Stores`: what is stored, whatever stacks there are.
* `Demo.Stores.submit`, `Demo.Stores.draw`: what a submission about the frame rate and a frame make
  of it.
* `Demo.Stores.map_label`, `Demo.Stores.map_area`: what the frame shows, and where.
-/

namespace OnScreen

/-- At the reading at which a message is queued no time has passed. -/
theorem Request.elapsed_toMessage (request : Request) (type : MessageType) (now : Reading) :
    (request.toMessage type now).elapsed now = 0 := by
  unfold Message.elapsed
  split
  · rfl
  · exact UInt64.sub_self now

namespace Demo

/-! ## The messages of the demo -/

/-- The message queued at the start. -/
def opening (icon : Option Icon) (now : Reading) : Message :=
  (greeting icon).toMessage .typeless now

/-- The message about the frame rate. -/
def rate (interval : UInt64) (now : Reading) : Message :=
  (rateMessage interval).toMessage rateType now

/-- The message is the one that was queued at the start, whether it was drawn since or not. -/
def IsOpening (icon : Option Icon) (now : Reading) (m : Message) : Prop :=
  ∃ picture drawn, m = { opening icon now with picture := picture, everDrawn := drawn }

section

variable {icon : Option Icon} {now : Reading} {m m' : Message}

theorem isOpening_opening (icon : Option Icon) (now : Reading) :
    IsOpening icon now (opening icon now) :=
  ⟨_, _, rfl⟩

namespace IsOpening

theorem of_leftAs (h : IsOpening icon now m) {drawing : Bool} (hleft : m.LeftAs drawing m') :
    IsOpening icon now m' := by
  obtain ⟨picture, drawn, rfl⟩ := h
  exact ⟨m'.picture, _, hleft.kept.fields⟩

theorem type (h : IsOpening icon now m) : m.type = .typeless := by
  obtain ⟨picture, drawn, rfl⟩ := h
  rfl

/-- It has all of its time. -/
theorem timeLeft (h : IsOpening icon now m) : m.timeLeft now = 5000 := by
  obtain ⟨picture, drawn, rfl⟩ := h
  show normalDuration.toUInt64.toInt64 -
    (((greeting icon).toMessage .typeless now).elapsed now).toInt64 = _
  rw [Request.elapsed_toMessage]
  decide

theorem isPending (h : IsOpening icon now m) : m.isPending now = true := by
  unfold Message.isPending Message.isExpired
  rw [h.timeLeft]
  obtain ⟨picture, drawn, rfl⟩ := h
  rfl

/-- It has not begun to fade. -/
theorem shown (h : IsOpening icon now m) :
    m.shown now = ((greeting icon).text, Binary.ofNat 1) := by
  have hfade : fadeOpacity 5000 normalDuration = Binary.ofNat 1 := by decide +kernel
  unfold Message.shown Message.opacity
  rw [h.timeLeft]
  obtain ⟨picture, drawn, rfl⟩ := h
  show ((greeting icon).text, if drawn then fadeOpacity 5000 normalDuration else _) = _
  rw [hfade, ite_self]

end IsOpening

end

theorem shown_rate (interval : UInt64) (now : Reading) :
    (rate interval now).shown now = ((rateMessage interval).text, Binary.ofNat 1) :=
  rfl

/-! ## What is stored -/

/-- The stack that the message about the frame rate goes to. -/
def rateStack (overlay : Overlay) : String :=
  overlay.registry.resolve "perf"

/-- The messages of a stack, if the messages about the frame rate are in the one with the given
name, and the message from the start is in the default stack. -/
def held (target : String) (rates : List Message) (greeting : Message) (name : String) :
    List Message :=
  (if name = target then rates else []) ++ if name = "" then [greeting] else []

theorem filter_held (p : Message → Bool) (target : String) (rates : List Message)
    {greeting : Message} (h : p greeting = true) (name : String) :
    (held target rates greeting name).filter p = held target (rates.filter p) greeting name := by
  unfold held
  rw [List.filter_append]
  congr 1
  · split <;> rfl
  · split
    · exact List.filter_cons_of_pos h
    · rfl

/-- A new message about the frame rate supersedes the others, and is put behind them. -/
theorem arrange_rate {m greeting : Message} {rates : List Message} (hm : m.type = rateType)
    (hrates : ∀ r ∈ rates, r.type = rateType) (hgreeting : greeting.type = .typeless)
    (isDefault : Prop) [Decidable isDefault] :
    arrange m ((rates ++ if isDefault then [greeting] else []).map fun m' =>
        if m.type.Supersedes m'.type then m'.discard else m') =
      rates.map Message.discard ++ [m] ++ if isDefault then [greeting] else [] := by
  have hold : rates.map (fun m' => if m.type.Supersedes m'.type then m'.discard else m') =
      rates.map Message.discard := by
    refine List.map_congr_left fun r hr => if_pos ?_
    rw [hm, hrates r hr]
    exact ⟨by decide, rfl⟩
  -- The new message stands behind those of its type and before the one without a type.
  have hbehind : ∀ r ∈ rates.map Message.discard, ¬ m.type.rank < r.type.rank := by
    intro r' hr'
    obtain ⟨r, hr, rfl⟩ := List.mem_map.mp hr'
    show ¬ m.type.rank < r.type.rank
    rw [hm, hrates r hr]
    exact Nat.lt_irrefl _
  have hkept : ¬ m.type.Supersedes greeting.type := by
    rw [hm, hgreeting]
    rintro ⟨-, heq⟩
    cases heq
  have hlast : m.type.rank < greeting.type.rank := by
    rw [hm, hgreeting]
    decide
  rw [List.map_append, hold, arrange_append hbehind, List.append_assoc]
  congr 1
  split
  · rw [List.map_singleton, if_neg hkept, arrange, if_pos hlast]
    rfl
  · rfl

/-- A frame leaves the message about the frame rate, if it is there. -/
theorem forall₂_rate {r : Message} (hicon : r.picture.icon? = none) {drawing : Bool}
    {isTarget : Prop} [Decidable isTarget] {rest l : List Message}
    (h : List.Forall₂ (fun m m' => m.LeftAs drawing m')
      ((if isTarget then [r] else []) ++ rest) l) :
    ∃ rest', l = (if isTarget then [{ r with everDrawn := r.everDrawn || drawing }] else []) ++
        rest' ∧ List.Forall₂ (fun m m' => m.LeftAs drawing m') rest rest' := by
  split at h
  · rename_i htarget
    obtain ⟨r', rest', hleft, hrest, rfl⟩ := List.forall₂_cons_left_iff.mp h
    exact ⟨rest', by rw [hleft.eq_of_icon?_eq_none hicon, if_pos htarget]; rfl, hrest⟩
  · rename_i htarget
    exact ⟨l, by rw [if_neg htarget]; rfl, h⟩

/-- The overlay is as it was at first, but for what its stacks hold. -/
structure Stores (first : Overlay) (rates : List Message) (greeting : Message)
    (overlay : Overlay) : Prop where
  wellFormed : overlay.registry.WellFormed
  enabled : overlay.enabled = first.enabled
  obscured : overlay.obscured = first.obscured
  layout : ∀ name, overlay.registry.layout? name = first.registry.layout? name
  toList : ∀ name stack, overlay.registry.get? name = some stack →
    stack.toList = held (rateStack first) rates greeting name

namespace Stores

variable {first overlay : Overlay} {rates : List Message} {greeting : Message}
  (h : Stores first rates greeting overlay)

include h

theorem rateStack_eq : rateStack overlay = rateStack first := by
  unfold rateStack
  rw [Registry.resolve_eq, Registry.resolve_eq, ← Registry.isSome_layout?, h.layout,
    Registry.isSome_layout?]

theorem isSome_rateStack : (overlay.registry.get? (rateStack first)).isSome = true := by
  rw [← h.rateStack_eq]
  exact Option.isSome_iff_exists.mpr ⟨_, Registry.get?_resolve _ _⟩

theorem length_messages : overlay.registry.messages.length = rates.length + 1 := by
  have hothers : ∀ name, name ≠ "" → name ≠ rateStack first →
      held (rateStack first) rates greeting name = [] := by
    intro name hname htarget
    unfold held
    rw [if_neg htarget, if_neg hname]
    rfl
  rw [Registry.messages_eq_flatMap h.wellFormed h.toList,
    Registry.flatMap_names h.wellFormed h.isSome_rateStack hothers]
  -- The messages about the frame rate are in the default stack, or in one of their own.
  by_cases htarget : rateStack first = ""
  · simp [held, htarget]
  · simp [held, htarget, Ne.symm htarget]

theorem messageTotal_eq : overlay.messageTotal = rates.length + 1 := by
  rw [Overlay.messageTotal_eq h.wellFormed, ← Registry.clear_count]
  exact h.length_messages

/-- A new message about the frame rate supersedes the others. -/
theorem submit (hrates : ∀ r ∈ rates, r.type = rateType) (hgreeting : greeting.type = .typeless)
    (interval : UInt64) (now : Reading) :
    Stores first (rates.map Message.discard ++ [rate interval now]) greeting
      (overlay.submit now rateType (rateMessage interval)).value.1 where
  wellFormed := Overlay.wellFormed_submit h.wellFormed _ _ _
  enabled := (overlay.enabled_submit _ _ _).trans h.enabled
  obscured := (overlay.obscured_submit _ _ _).trans h.obscured
  layout name := (overlay.layout?_submit _ _ _ name).trans (h.layout name)
  toList := by
    intro name stack' hs'
    have hq : overlay.Queues now rateType (rateMessage interval) := by
      unfold Overlay.Queues
      rfl
    have htarget : overlay.target (rateMessage interval) = rateStack first := h.rateStack_eq
    rw [Overlay.get?_submit hq, htarget] at hs'
    unfold held
    split at hs'
    · rename_i hname
      subst hname
      cases hs'
      have hs : overlay.registry.get? (rateStack first) =
          some ((overlay.registry.get? "perf").getD overlay.registry.defaultStack) := by
        rw [← h.rateStack_eq]
        exact Registry.get?_resolve_eq _ _
      refine (Stack.toList_enqueue (h.wellFormed.keyed _ _ hs) _).trans ?_
      rw [h.toList _ _ hs, held, if_pos rfl, if_pos rfl]
      exact arrange_rate rfl hrates hgreeting _
    · rename_i hname
      rw [h.toList _ _ hs', held, if_neg hname, if_neg hname]

/-- A frame leaves one message of each kind. -/
theorem draw {ρ : Type} (R : Renderer ρ) {now : Reading} {r : Message}
    (hrates : rates.filter (fun m => m.isPending now) = [r]) (hicon : r.picture.icon? = none)
    (hgreeting : greeting.isPending now = true) (renderer : ρ) :
    ∃ greeting', greeting.LeftAs first.enabled greeting' ∧
      Stores first [{ r with everDrawn := r.everDrawn || first.enabled }] greeting'
        (overlay.draw R now renderer).overlay := by
  have hafter {name : String} {stack' : Stack}
      (hs' : (overlay.draw R now renderer).overlay.registry.get? name = some stack') :
      List.Forall₂ (fun m m' => m.LeftAs first.enabled m')
        (held (rateStack first) [r] greeting name) stack'.toList := by
    obtain ⟨stack, hs, hleft⟩ := Overlay.forall₂_draw_leftAs h.wellFormed hs'
    rw [h.toList name stack hs, filter_held _ _ _ hgreeting, hrates, h.enabled] at hleft
    exact hleft
  have hdefault := Registry.get?_default (overlay.draw R now renderer).overlay.registry
  obtain ⟨rest, hl, hrest⟩ := forall₂_rate hicon (hafter hdefault)
  rw [if_pos rfl] at hrest
  obtain ⟨greeting', _, hleft, hnil, rfl⟩ := List.forall₂_cons_left_iff.mp hrest
  obtain rfl := List.forall₂_nil_left_iff.mp hnil
  refine ⟨greeting', hleft, Overlay.wellFormed_draw R h.wellFormed, h.enabled, h.obscured,
    fun name => (Overlay.layout?_draw R h.wellFormed name).trans (h.layout name), ?_⟩
  intro name stack' hs'
  unfold held
  by_cases hname : name = ""
  · rw [hname] at hs' ⊢
    cases hdefault.symm.trans hs'
    rw [hl, if_pos rfl]
  · obtain ⟨rest, hl, hrest⟩ := forall₂_rate hicon (hafter hs')
    rw [if_neg hname] at hrest ⊢
    rw [hl, List.forall₂_nil_left_iff.mp hrest]

end Stores

/-! ## What is placed -/

/-- The labels of the placements of a frame. -/
def labels (target : String) (rate greeting : String × Single) :
    List (String × Nat × String × Single) :=
  if target = "" then [("", 0, rate), ("", 1, greeting)]
  else [("", 0, greeting), (target, 0, rate)]

theorem labels_rateStack (overlay : Overlay) (rate greeting : String × Single) :
    labels (rateStack overlay) rate greeting =
      if "perf" ∈ overlay.registry.names then [("", 0, greeting), ("perf", 0, rate)]
      else [("", 0, rate), ("", 1, greeting)] := by
  have hne : "perf" ≠ "" := by decide
  unfold labels rateStack
  rw [Registry.resolve_eq_ite]
  by_cases hperf : "perf" ∈ overlay.registry.names
  · rw [if_pos hperf, if_pos hperf, if_neg hne]
  · rw [if_neg hperf, if_neg hperf, if_pos rfl]

/-- Where the messages of a stack are placed. -/
def areasIn (screen : Headless) (first : Overlay) (rates : List Message) (greeting : Message)
    (name : String) : List (Point Single × Size Single) :=
  match first.registry.layout? name with
  | some layout => screen.areas first.obscured layout (held (rateStack first) rates greeting name)
  | none => []

/-- Where the messages of all stacks are placed. -/
def areas (screen : Headless) (first : Overlay) (rates : List Message) (greeting : Message) :
    List (Point Single × Size Single) :=
  areasIn screen first rates greeting "" ++
    if rateStack first = "" then [] else areasIn screen first rates greeting (rateStack first)

namespace Stores

variable {first overlay : Overlay} {rates : List Message} {r greeting : Message} {now : Reading}
  (h : Stores first rates greeting overlay) (henabled : first.enabled = true)
  (hrates : rates.filter (fun m => m.isPending now) = [r])
  (hgreeting : greeting.isPending now = true) (screen : Headless)

include h henabled hrates hgreeting

theorem map_label_forStack {name : String} {stack : Stack}
    (hs : overlay.registry.get? name = some stack) :
    ((overlay.draw Headless.renderer now screen).report.forStack name).map Placement.label =
      ((Stack.inOrder stack.layout.reversed (held (rateStack first) [r] greeting name)).map
        (Message.shown · now)).zipIdx.map fun e => (name, e.2, e.1) := by
  rw [Overlay.map_label_forStack h.wellFormed (h.enabled.trans henabled) now screen hs,
    Stack.pendingMessages_eq, h.toList name stack hs, filter_held _ _ _ hgreeting, hrates]

/-- All placements are in the default stack and in the one of the frame rate. -/
theorem placements_eq :
    (overlay.draw Headless.renderer now screen).report.placements =
      (overlay.draw Headless.renderer now screen).report.forStack "" ++
        if rateStack first = "" then []
        else (overlay.draw Headless.renderer now screen).report.forStack (rateStack first) := by
  rw [← Overlay.flatMap_forStack Headless.renderer h.wellFormed,
    Registry.flatMap_names h.wellFormed h.isSome_rateStack]
  intro name hname htarget
  cases hs : overlay.registry.get? name with
  | none => exact Overlay.forStack_of_get?_eq_none Headless.renderer h.wellFormed hs
  | some stack =>
    have hlabels := h.map_label_forStack henabled hrates hgreeting screen hs
    rw [held, if_neg htarget, if_neg hname] at hlabels
    refine List.map_eq_nil_iff.mp (hlabels.trans ?_)
    cases stack.layout.reversed <;> rfl

theorem map_label (hdefault : first.registry.layout? "" = some (StackLayout.named "")) :
    (overlay.draw Headless.renderer now screen).report.placements.map Placement.label =
      labels (rateStack first) (r.shown now) (greeting.shown now) := by
  have hlayout : overlay.registry.defaultStack.layout = StackLayout.named "" :=
    Option.some.inj ((h.layout "").trans hdefault)
  have hreversed : overlay.registry.defaultStack.layout.reversed = false := by
    rw [hlayout]
    rfl
  obtain ⟨target, htarget⟩ := Option.isSome_iff_exists.mp h.isSome_rateStack
  have hindefault := h.map_label_forStack henabled hrates hgreeting screen
    (Registry.get?_default overlay.registry)
  have hintarget := h.map_label_forStack henabled hrates hgreeting screen htarget
  unfold held at hindefault hintarget
  rw [hreversed, if_pos rfl] at hindefault
  rw [if_pos rfl] at hintarget
  rw [h.placements_eq henabled hrates hgreeting screen, List.map_append, hindefault, labels]
  by_cases hsame : rateStack first = ""
  · rw [if_pos hsame.symm, if_pos hsame, if_pos hsame]
    rfl
  · rw [if_neg hsame] at hintarget
    rw [if_neg (Ne.symm hsame), if_neg hsame, if_neg hsame, hintarget]
    cases target.layout.reversed <;> rfl

theorem map_area {r' greeting' : Message}
    (h' : Stores first [r'] greeting' (overlay.draw Headless.renderer now screen).overlay) :
    (overlay.draw Headless.renderer now screen).report.placements.map Placement.area =
      areas screen first [r'] greeting' := by
  have hin {name : String} (hname : ((overlay.draw Headless.renderer now
      screen).overlay.registry.get? name).isSome = true) :
      ((overlay.draw Headless.renderer now screen).report.forStack name).map Placement.area =
        areasIn screen first [r'] greeting' name := by
    obtain ⟨stack', hs'⟩ := Option.isSome_iff_exists.mp hname
    have hlayout : first.registry.layout? name = some stack'.layout := by
      rw [← h'.layout, Registry.layout?, hs']
      rfl
    rw [Overlay.map_area_forStack h.wellFormed (h.enabled.trans henabled) now screen hs',
      h'.toList name stack' hs', h.obscured, areasIn, hlayout]
  rw [h.placements_eq henabled hrates hgreeting screen, List.map_append, hin rfl, areas]
  congr 1
  split
  · rfl
  · exact hin h'.isSome_rateStack

end Stores

end Demo

end OnScreen
