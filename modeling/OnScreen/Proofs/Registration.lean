import Mathlib.Data.List.Induction
import OnScreen.Config
import OnScreen.Proofs.HiddenFrames

/-!
# Registered stacks

A name is registered once: the first layout that is offered under it is its layout for ever,
whether it comes from a configuration or is registered later, and whatever is done in between. A
message goes to the stack of its name, or to the default stack if there is none yet, and it stays
there when a stack of that name is registered later.

Results:
* `Overlay.get?_registerAll`, `Session.layout?_step`: the first offer decides, in a list of layouts
  and in a step.
* `Session.layout?_run`: by induction, in a run.
* `Registry.register_eq_true_iff`: when a stack is added.
* `Registry.get?_resolve_eq`, `Overlay.get?_submit`: where a submission goes.
* `Session.exists_submission`: a stored message was submitted, and its name led to its stack then.
* `Session.registration_keeps_first`: all of this for the runs from a configuration.
-/

namespace OnScreen

/-- The first layout of a list with a name. -/
def StackLayout.first? (layouts : List StackLayout) (name : String) : Option StackLayout :=
  layouts.find? fun layout => decide (layout.name = name)

theorem StackLayout.isSome_first?_iff {layouts : List StackLayout} {name : String} :
    (first? layouts name).isSome = true ↔ ∃ layout ∈ layouts, layout.name = name := by
  unfold first?
  rw [List.find?_isSome]
  simp only [decide_eq_true_eq]

/-! ## The layouts of a registry -/

namespace Registry

variable {registry : Registry}

/-- The layout of the stack with a name. -/
def layout? (registry : Registry) (name : String) : Option StackLayout :=
  (registry.get? name).map Stack.layout

theorem layout?_empty (name : String) :
    empty.layout? name = if name = "" then some (StackLayout.named "") else none := by
  unfold layout?
  rw [get?_empty]
  split <;> rfl

/-- The names are those under which stacks are found, but for the empty one. -/
theorem mem_names_iff (h : registry.named.find? "" = none) {name : String} :
    name ∈ registry.names ↔ name ≠ "" ∧ (registry.get? name).isSome = true := by
  unfold names
  rw [← OrderedMap.contains_iff]
  constructor
  · intro hname
    have hne : name ≠ "" := by
      rintro rfl
      rw [OrderedMap.contains_iff] at hname
      exact OrderedMap.find?_eq_none_iff.mp h hname
    exact ⟨hne, by rw [get?_of_ne hne]; exact hname⟩
  · rintro ⟨hne, hsome⟩
    rw [get?_of_ne hne] at hsome
    exact hsome

theorem isSome_layout? (registry : Registry) (name : String) :
    (registry.layout? name).isSome = (registry.get? name).isSome :=
  Option.isSome_map

/-- A stack is added if its name is not empty and not yet registered. -/
theorem register_eq_true_iff (registry : Registry) (layout : StackLayout) :
    (registry.register layout).value.2 = true ↔
      layout.name ≠ "" ∧ layout.name ∉ registry.names := by
  unfold register names
  rw [← OrderedMap.contains_iff]
  by_cases hn : layout.name = ""
  · rw [if_pos hn]
    exact ⟨fun h => (by cases h), fun h => absurd hn h.1⟩
  · rw [if_neg hn]
    by_cases hc : registry.named.contains layout.name = true
    · rw [if_pos hc]
      exact ⟨fun h => (by cases h), fun h => absurd hc h.2⟩
    · rw [if_neg hc]
      exact ⟨fun _ => ⟨hn, hc⟩, fun _ => rfl⟩

/-- An offer that is not taken changes nothing. -/
theorem register_of_false {layout : StackLayout}
    (h : (registry.register layout).value.2 = false) :
    (registry.register layout).value.1 = registry := by
  rcases register_cases registry layout with hr | ⟨-, -, hr⟩
  · rw [hr]
  · rw [hr] at h
    cases h

/-- An offer that is taken adds a stack without messages, and changes no other. -/
theorem get?_register_of_true {layout : StackLayout}
    (h : (registry.register layout).value.2 = true) (name : String) :
    (registry.register layout).value.1.get? name =
      if name = layout.name then some { layout := layout } else registry.get? name := by
  have hfree : registry.get? layout.name = none := by
    rcases register_cases registry layout with hr | ⟨-, hfree, -⟩
    · rw [hr] at h
      cases h
    · exact hfree
  rw [get?_register_eq]
  by_cases hname : name = layout.name
  · subst hname
    simp only [hfree, and_self, if_true]
  · simp only [hname, false_and, if_false]

theorem resolve_eq_ite (registry : Registry) (name : String) :
    registry.resolve name = if name ∈ registry.names then name else "" := by
  unfold resolve names
  simp only [OrderedMap.contains_iff]

/-- Names lead to their stacks, and all others to the default stack. -/
theorem get?_resolve_eq (registry : Registry) (name : String) :
    registry.get? (registry.resolve name) =
      some ((registry.get? name).getD registry.defaultStack) := by
  rw [resolve_eq]
  cases hs : registry.get? name with
  | some stack => exact hs
  | none => exact get?_default registry

/-- A message that is queued in a stack changes no layout. -/
theorem layout?_enqueue (registry : Registry) (target : String) (m : Message) (name : String) :
    (registry.adjust target (Overlay.enqueue · m)).layout? name = registry.layout? name := by
  unfold layout?
  rw [get?_adjust]
  split
  · rw [Option.map_map]
    congr 1
    funext stack
    exact Stack.layout_enqueue stack m
  · rfl

theorem layout?_clear (registry : Registry) (name : String) :
    registry.clear.1.layout? name = registry.layout? name := by
  unfold layout?
  rw [get?_clear, Option.map_map]
  rfl

end Registry

namespace Overlay

variable {overlay : Overlay} {now : Reading} {type : MessageType} {request : Request}

theorem wellFormed_registerAll {overlay : Overlay} (h : overlay.registry.WellFormed)
    (layouts : List StackLayout) : (overlay.registerAll layouts).value.registry.WellFormed := by
  induction layouts generalizing overlay with
  | nil => exact h
  | cons layout layouts ih => exact ih (h.register layout)

/-- The first layout with a name decides, unless there was a stack of that name before. -/
theorem get?_registerAll (overlay : Overlay) (layouts : List StackLayout) (name : String) :
    (overlay.registerAll layouts).value.registry.get? name =
      (overlay.registry.get? name).or
        ((layouts.find? fun layout => decide (layout.name = name)).map
          fun layout => { layout := layout }) := by
  induction layouts generalizing overlay with
  | nil => exact (Option.or_none).symm
  | cons layout layouts ih =>
    have hfirst : (overlay.register layout).value.1.registry.get? name =
        if name = layout.name ∧ overlay.registry.get? name = none then some { layout := layout }
        else overlay.registry.get? name :=
      Registry.get?_register_eq overlay.registry layout name
    show ((overlay.register layout).value.1.registerAll layouts).value.registry.get? name = _
    rw [ih, hfirst]
    cases hs : overlay.registry.get? name with
    | some stack =>
      rw [if_neg fun h => Option.some_ne_none stack h.2]
      rfl
    | none =>
      by_cases hname : name = layout.name
      · rw [if_pos ⟨hname, rfl⟩, List.find?_cons, decide_eq_true hname.symm]
        rfl
      · rw [if_neg fun h => hname h.1, List.find?_cons, decide_eq_false (Ne.symm hname)]

/-- A stack that was there before keeps its layout; otherwise the first layout with its name
decides. -/
theorem layout?_registerAll (overlay : Overlay) (layouts : List StackLayout) (name : String) :
    (overlay.registerAll layouts).value.registry.layout? name =
      (overlay.registry.layout? name).or (StackLayout.first? layouts name) := by
  unfold Registry.layout?
  rw [get?_registerAll, Option.map_or, Option.map_map]
  exact congrArg _ Option.map_id'

/-- Registered stacks start without messages, so nothing stored changes. -/
theorem message?_registerAll (overlay : Overlay) (layouts : List StackLayout) (id : MessageId) :
    (overlay.registerAll layouts).value.registry.message? id = overlay.registry.message? id := by
  induction layouts generalizing overlay with
  | nil => rfl
  | cons layout layouts ih =>
    exact (ih _).trans (Registry.message?_register overlay.registry layout id)

theorem layout?_draw {ρ : Type} (R : Renderer ρ) {renderer : ρ} (h : overlay.registry.WellFormed)
    (name : String) :
    (overlay.draw R now renderer).overlay.registry.layout? name =
      overlay.registry.layout? name := by
  have houtline := @map_outline_get?_draw overlay now ρ R renderer h name
  have hlayout := congrArg (Option.map Prod.fst) houtline
  rw [Option.map_map, Option.map_map] at hlayout
  exact hlayout

/-- A submission that is not a duplicate changes the stack that its name leads to, and no other. -/
theorem get?_submit (h : overlay.Queues now type request) (name : String) :
    (overlay.submit now type request).value.1.registry.get? name =
      if name = overlay.target request then
        some (enqueue ((overlay.registry.get? request.stack).getD overlay.registry.defaultStack)
          (request.toMessage type now))
      else overlay.registry.get? name := by
  rw [submit_of_queues h, Registry.get?_adjust]
  split
  · rename_i hname
    rw [hname, target, Registry.get?_resolve_eq, Option.map_some]
  · rfl

theorem layout?_submit (overlay : Overlay) (now : Reading) (type : MessageType)
    (request : Request) (name : String) :
    (overlay.submit now type request).value.1.registry.layout? name =
      overlay.registry.layout? name := by
  by_cases hq : overlay.Queues now type request
  · rw [submit_of_queues hq]
    exact Registry.layout?_enqueue _ _ _ name
  · rw [submit_of_not_queues hq]

/-- The check for duplicates looks at the stack that the name leads to. -/
theorem submit_eq_duplicate_iff (overlay : Overlay) (now : Reading) (type : MessageType)
    (request : Request) :
    (overlay.submit now type request).value.2 = .duplicate ↔
      request.preventDuplicate = true ∧
        ((overlay.registry.get? request.stack).getD overlay.registry.defaultStack).hasMessage
          type request.text now = true := by
  have hstack : overlay.registry.stackOf (overlay.target request) =
      (overlay.registry.get? request.stack).getD overlay.registry.defaultStack := by
    rw [Registry.stackOf, target, Registry.get?_resolve_eq, Option.getD_some]
  rw [← hstack, ← hasMessage_target, ← not_queues_iff, Queues]
  cases (overlay.submit now type request).value.2 <;> simp

end Overlay

/-! ## Runs -/

/-- The layouts that a step offers to register. -/
def Step.offers {ρ : Type} (x : Step ρ) : List StackLayout :=
  match x.operation with
  | .register layout => [layout]
  | _ => []

namespace Session

variable {ρ : Type}

/-- What a name leads to after a step: to the layout that it led to before, or to the one that the
step offers. -/
theorem layout?_step (s : Session ρ) (h : s.WellFormed) (x : Step ρ) (name : String) :
    (s.step x).overlay.registry.layout? name =
      (s.overlay.registry.layout? name).or (StackLayout.first? x.offers name) := by
  obtain ⟨now, operation⟩ := x
  cases operation with
  | submit type request =>
    exact (s.overlay.layout?_submit now type request name).trans Option.or_none.symm
  | register layout => exact s.overlay.layout?_registerAll [layout] name
  | enable on => exact Option.or_none.symm
  | obscureLeft pixels => exact Option.or_none.symm
  | obscureTop pixels => exact Option.or_none.symm
  | clear => exact (s.overlay.registry.layout?_clear name).trans Option.or_none.symm
  | draw R => exact (Overlay.layout?_draw R h name).trans Option.or_none.symm

/-- What a name leads to after a run: to the layout that it led to before, or else to the first one
that the run offered. -/
theorem layout?_run {s : Session ρ} (h : s.WellFormed) (steps : List (Step ρ)) (name : String) :
    (s.run steps).overlay.registry.layout? name =
      (s.overlay.registry.layout? name).or
        (StackLayout.first? (steps.flatMap Step.offers) name) := by
  induction steps generalizing s with
  | nil => exact Option.or_none.symm
  | cons x steps ih =>
    have hafter := ih (wellFormed_step s x h)
    rw [layout?_step s h, Option.or_assoc] at hafter
    rw [List.flatMap_cons, StackLayout.first?, List.find?_append]
    exact hafter

/-- A stack stays, with its layout. -/
theorem get?_run_of_get? {s : Session ρ} (h : s.WellFormed) (steps : List (Step ρ)) {name : String}
    {stack : Stack} (hs : s.overlay.registry.get? name = some stack) :
    ∃ stack', (s.run steps).overlay.registry.get? name = some stack' ∧
      stack'.layout = stack.layout := by
  have hlayout := layout?_run h steps name
  unfold Registry.layout? at hlayout
  rw [hs] at hlayout
  exact Option.map_eq_some_iff.mp hlayout

/-- The step queues a message that shows the same text as this one, and stores it under the id. -/
def Submits (id : MessageId) (m : Message) (s : Session ρ) (x : Step ρ) : Prop :=
  ∃ type request, x.operation = .submit type request ∧ s.overlay.Queues x.now type request ∧
    id = s.overlay.nextId type request ∧ (request.toMessage type x.now).SameText m

/-- A message that is stored after a step was stored before, with the same text, or is submitted in
the step. -/
theorem stored_or_submits {s : Session ρ} {x : Step ρ} (h : s.WellFormed) {id : MessageId}
    {m : Message} (hm : (s.step x).message? id = some m) :
    (∃ m', s.message? id = some m' ∧ m'.SameText m) ∨ Submits id m s x := by
  rcases adds_or_remained s x h hm with ⟨type, request, hop, hq, hid⟩ | ⟨m', hm', hremained⟩
  · refine Or.inr ⟨type, request, hop, hq, hid, ?_⟩
    have hstored := Overlay.message?_submit_nextId hq
    rw [← hid] at hstored
    obtain ⟨now, operation⟩ := x
    cases hop
    cases hstored.symm.trans hm
    exact ⟨rfl, rfl, rfl⟩
  · exact Or.inl ⟨m', hm', hremained.sameText⟩

/-- A message that is stored after a run of an overlay without messages was submitted in the run. -/
theorem exists_submission {s : Session ρ} (h : s.WellFormed) (hempty : ∀ id, s.message? id = none)
    (steps : List (Step ρ)) {id : MessageId} {m : Message}
    (hm : (s.run steps).message? id = some m) :
    Happens (fun past x => Submits id m (s.run past) x) steps := by
  induction steps using List.reverseRecOn generalizing m with
  | nil =>
    rw [show (s.run []).message? id = none from hempty id] at hm
    cases hm
  | append_singleton steps x ih =>
    rw [happens_concat]
    rw [run_concat] at hm
    rcases stored_or_submits (wellFormed_run h steps) hm with ⟨m', hm', htext⟩ | hsubmits
    · obtain ⟨past, y, future, rfl, type, request, hop, hq, hid, hsubmitted⟩ := ih hm'
      exact Or.inl ⟨past, y, future, rfl, type, request, hop, hq, hid, hsubmitted.trans htext⟩
    · exact Or.inr hsubmits

/-! ## From a configuration -/

/-- A session with the overlay that a configuration describes. -/
def ofConfig (config : Config) (renderer : ρ) : Session ρ where
  overlay := config.overlay.value
  renderer := renderer

theorem wellFormed_ofConfig (config : Config) (renderer : ρ) :
    (ofConfig config renderer).WellFormed :=
  Overlay.wellFormed_registerAll .empty config.layouts

theorem layout?_ofConfig (config : Config) (renderer : ρ) (name : String) :
    (ofConfig config renderer).overlay.registry.layout? name =
      if name = "" then some (StackLayout.named "")
      else StackLayout.first? config.layouts name := by
  have hlayout := Overlay.layout?_registerAll { enabled := config.messagesEnabled }
    config.layouts name
  rw [show ({ enabled := config.messagesEnabled } : Overlay).registry = Registry.empty from rfl,
    Registry.layout?_empty] at hlayout
  refine hlayout.trans ?_
  split <;> rfl

theorem message?_ofConfig (config : Config) (renderer : ρ) (id : MessageId) :
    (ofConfig config renderer).message? id = none :=
  (Overlay.message?_registerAll _ config.layouts id).trans (Registry.message?_empty id)

/-- What a name leads to after a run from a configuration: the layouts of the configuration come
first, then those that were offered in the run. -/
theorem layout?_run_ofConfig (config : Config) (renderer : ρ) (steps : List (Step ρ))
    {name : String} (hne : name ≠ "") :
    ((ofConfig config renderer).run steps).overlay.registry.layout? name =
      StackLayout.first? (config.layouts ++ steps.flatMap Step.offers) name := by
  rw [layout?_run (wellFormed_ofConfig config renderer), layout?_ofConfig, if_neg hne]
  exact List.find?_append.symm

/-- Registration keeps the first layout. An overlay that is made from a configuration has a stack
for every name of its list but the empty one, with the layout of its first occurrence. In every run
of such an overlay, a name leads to the first layout that was offered under it, in the list or in
the run, and a stack that was found once is found again with its layout. The names are in the order
of their bytes, the empty one is not among them, and the default stack has the default layout. A
stack is added if its name is not empty and not yet registered, and otherwise nothing changes; no
message is moved. A submission goes to the stack of its name, and to the default stack if there is
none: this stack is checked for a duplicate, and only this one changes. What is stored was submitted
when its name led to the stack in which it is, so a stack that is registered later takes over
nothing. -/
theorem registration_keeps_first (config : Config) (renderer : ρ) (steps : List (Step ρ)) :
    let initial := ofConfig config renderer
    let configured := initial.overlay.registry
    let overlay := (initial.run steps).overlay
    let registry := overlay.registry
    (configured.names.Pairwise (fun a b => bytesBefore (utf8Bytes a) (utf8Bytes b) = true) ∧
      (∀ name, name ∈ configured.names ↔
        name ≠ "" ∧ ∃ layout ∈ config.layouts, layout.name = name) ∧
      ∀ name ∈ configured.names,
        configured.layout? name = StackLayout.first? config.layouts name) ∧
    (registry.names.Pairwise (fun a b => bytesBefore (utf8Bytes a) (utf8Bytes b) = true) ∧
      "" ∉ registry.names ∧
      (∀ name stack, registry.get? name = some stack → stack.layout.name = name) ∧
      registry.get? "" = some registry.defaultStack ∧
      registry.defaultStack.layout = StackLayout.named "") ∧
    ((∀ name, name ≠ "" → registry.layout? name =
        StackLayout.first? (config.layouts ++ steps.flatMap Step.offers) name) ∧
      ∀ past future, steps = past ++ future → ∀ name stack,
        (initial.run past).overlay.registry.get? name = some stack →
        ∃ stack', registry.get? name = some stack' ∧ stack'.layout = stack.layout) ∧
    (∀ layout,
      let result := (overlay.register layout).value
      (result.2 = true ↔ layout.name ≠ "" ∧ layout.name ∉ registry.names) ∧
      (result.2 = false → result.1 = overlay) ∧
      (result.2 = true → ∀ name, result.1.registry.get? name =
        if name = layout.name then some { layout := layout } else registry.get? name) ∧
      ∀ id, result.1.registry.message? id = registry.message? id) ∧
    (∀ now type request,
      let target := if request.stack ∈ registry.names then request.stack else ""
      let stack := (registry.get? request.stack).getD registry.defaultStack
      let result := (overlay.submit now type request).value
      registry.get? target = some stack ∧
      (result.2 = .duplicate ↔
        request.preventDuplicate = true ∧ stack.hasMessage type request.text now = true) ∧
      (result.2 = .duplicate → result.1 = overlay) ∧
      (result.2 = .queued → ∀ name, result.1.registry.get? name =
        if name = target then some (Overlay.enqueue stack (request.toMessage type now))
        else registry.get? name)) ∧
    ∀ id m, registry.message? id = some m →
      ∃ past x future type request, steps = past ++ x :: future ∧
        x.operation = .submit type request ∧ (request.toMessage type x.now).SameText m ∧
        id.stack = if request.stack ∈ (initial.run past).overlay.registry.names then request.stack
          else "" := by
  intro initial configured overlay registry
  have hstart : initial.WellFormed := wellFormed_ofConfig config renderer
  have hwf : registry.WellFormed := wellFormed_run hstart steps
  have hlayout (name : String) (hname : name ∈ configured.names) :
      configured.layout? name = StackLayout.first? config.layouts name := by
    have hne := ((Registry.mem_names_iff hstart.unnamed).mp hname).1
    exact (layout?_ofConfig config renderer name).trans (if_neg hne)
  refine ⟨⟨configured.named.sorted, ?_, hlayout⟩,
    ⟨registry.named.sorted, ?_, hwf.name, registry.get?_default, ?_⟩,
    ⟨fun name => layout?_run_ofConfig config renderer steps, ?_⟩, ?_, ?_, ?_⟩
  · intro name
    rw [Registry.mem_names_iff hstart.unnamed, ← StackLayout.isSome_first?_iff]
    refine and_congr_right fun hne => ?_
    rw [← Registry.isSome_layout?, layout?_ofConfig, if_neg hne]
  · intro hname
    exact ((Registry.mem_names_iff hwf.unnamed).mp hname).1 rfl
  · have hdefault := layout?_run hstart steps ""
    rw [layout?_ofConfig, if_pos rfl] at hdefault
    exact Option.some.inj hdefault
  · rintro past future rfl name stack hs
    show ∃ stack', (initial.run (past ++ future)).overlay.registry.get? name = some stack' ∧ _
    rw [run_append]
    exact get?_run_of_get? (wellFormed_run hstart past) future hs
  · intro layout result
    refine ⟨Registry.register_eq_true_iff registry layout, ?_, ?_,
      Registry.message?_register registry layout⟩
    · intro hfalse
      show { overlay with registry := (registry.register layout).value.1 } = overlay
      rw [Registry.register_of_false hfalse]
    · exact fun htrue => Registry.get?_register_of_true htrue
  · intro now type request target stack result
    have htarget : overlay.target request = target := Registry.resolve_eq_ite _ _
    refine ⟨?_, Overlay.submit_eq_duplicate_iff overlay now type request, ?_, ?_⟩
    · rw [← htarget]
      exact Registry.get?_resolve_eq registry request.stack
    · intro hduplicate
      have hnot : ¬ overlay.Queues now type request := fun hq =>
        Submission.noConfusion (hq.symm.trans hduplicate)
      show (overlay.submit now type request).value.1 = overlay
      rw [Overlay.submit_of_not_queues hnot]
    · intro hq name
      rw [← htarget]
      exact Overlay.get?_submit hq name
  · intro id m hm
    obtain ⟨past, x, future, hsteps, type, request, hop, -, hid, htext⟩ :=
      exists_submission hstart (message?_ofConfig config renderer) steps hm
    refine ⟨past, x, future, type, request, hsteps, hop, htext, ?_⟩
    rw [← Registry.resolve_eq_ite, hid]
    rfl

/-- A message for a stack of toasts. -/
def toast (text : String) : Step Headless :=
  ⟨0, .submit .typeless
    { text := text, duration := 1000, color := Color.green, stack := "toasts" }⟩

/-- A stack is listed twice, and a layout without a name is listed too. Of two messages for a stack
that is registered between them, the first one stays in the default stack. -/
theorem late_stack_takes_nothing_over :
    let screen : Headless := { viewport := ⟨Binary.ofNat 640, Binary.ofNat 480⟩ }
    let upward := { StackLayout.named "hud" with direction := .upward }
    let config : Config := { layouts := [upward, StackLayout.named "", StackLayout.named "hud"] }
    let steps := [toast "early", ⟨0, .register (StackLayout.named "toasts")⟩, toast "late"]
    let overlay := ((ofConfig config screen).run steps).overlay
    overlay.registry.layout? "hud" = some upward ∧
      overlay.registry.names = ["hud", "toasts"] ∧
      (overlay.register (StackLayout.named "toasts")).value.1 = overlay ∧
      overlay.registry.messages.map Message.text = ["early", "late"] ∧
      overlay.messageCount? "toasts" = some 1 := by
  intro screen upward config steps
  have hkeeps := registration_keeps_first config screen steps
  dsimp only at hkeeps ⊢
  obtain ⟨-, -, ⟨hlayouts, -⟩, hregister, -⟩ := hkeeps
  obtain ⟨hadded, hkept, -⟩ := hregister (StackLayout.named "toasts")
  have hnames : ((ofConfig config screen).run steps).overlay.registry.names =
      ["hud", "toasts"] := by decide +kernel
  refine ⟨(hlayouts "hud" (by decide)).trans (by decide), hnames, hkept ?_, by decide +kernel,
    by decide +kernel⟩
  rw [← Bool.not_eq_true, hadded, hnames]
  decide

end Session

end OnScreen
