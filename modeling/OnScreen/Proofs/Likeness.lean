import OnScreen.Proofs.Arrangement
import OnScreen.Proofs.Session

/-!
# Runs that are alike

Two runs of the same operations may differ in things that do not matter for what is asked: in the
origin of the clock, in the pictures of the messages, in where the stacks are placed, or in stacks
that are not asked about. A sense tells what may differ. What is alike in a sense before an
operation is alike after it; frames are left to those who draw them.

Results:
* `Message.Like`, `Stack.Like`, `Registry.Like`, `Overlay.Like`: what it is to be alike, with one
  lemma for each operation.
* `Overlay.Like.submission_eq`, `Overlay.Like.hasMessage_eq`, `Overlay.Like.messageCount?_eq`: what
  is alike gives the same answers.
* `Overlay.Like.registry_draw`: frames leave registries alike if the turns of their stacks do.
* `Session.Like.step`, `Session.Like.run`: corresponding runs stay alike if their frames do.
-/

namespace OnScreen

/-- What may differ between two runs: a relation for readings, for the pictures of messages, for the
layouts of stacks, and for the margins in pixels. -/
structure Sense where
  reading : Reading → Reading → Prop
  picture : Picture → Picture → Prop
  layout : StackLayout → StackLayout → Prop
  pixels : Int32 → Int32 → Prop

/-- As much time passes between readings as between those that correspond to them; pictures are only
told apart once they are drawn, and stacks by their names. -/
structure Sense.Lawful (sense : Sense) : Prop where
  elapsed : ∀ {a a' b b'}, sense.reading a a' → sense.reading b b' →
    (if b < a then 0 else b - a) = if b' < a' then 0 else b' - a'
  picture : ∀ icon?, sense.picture (Picture.ofIcon? icon?) (Picture.ofIcon? icon?)
  name : ∀ {layout layout'}, sense.layout layout layout' → layout.name = layout'.name
  unnamed : sense.layout (StackLayout.named "") (StackLayout.named "")
  pixels : sense.pixels 0 0

variable {sense : Sense}

/-! ## Messages -/

/-- Two messages are alike: they were queued at corresponding readings, their pictures correspond,
and they are the same in everything else. -/
structure Message.Like (sense : Sense) (m m' : Message) : Prop where
  fields : m' = { m with startedAt := m'.startedAt, picture := m'.picture }
  startedAt : sense.reading m.startedAt m'.startedAt
  picture : sense.picture m.picture m'.picture

namespace Message.Like

variable {m m' a a' : Message} {now now' : Reading}

theorem type (h : m.Like sense m') : m.type = m'.type := by
  rw [h.fields]

theorem text (h : m.Like sense m') : m.text = m'.text := by
  rw [h.fields]

theorem discard (h : m.Like sense m') : m.discard.Like sense m'.discard := by
  refine ⟨?_, h.startedAt, h.picture⟩
  unfold Message.discard
  rw [h.fields]

theorem timeLeft_eq (h : m.Like sense m') (hsense : sense.Lawful)
    (hnow : sense.reading now now') : m.timeLeft now = m'.timeLeft now' := by
  have hduration : m.duration = m'.duration := by
    rw [h.fields]
  have helapsed : m.elapsed now = m'.elapsed now' := hsense.elapsed h.startedAt hnow
  unfold timeLeft
  rw [hduration, helapsed]

/-- What decides about a message with some time left is the same. -/
theorem isLive_isExpired (h : m.Like sense m') (left : Int64) :
    m.isLive = m'.isLive ∧ m.isExpired left = m'.isExpired left := by
  unfold isLive isExpired
  rw [h.fields]
  exact ⟨rfl, rfl⟩

theorem isPending_eq (h : m.Like sense m') (hsense : sense.Lawful)
    (hnow : sense.reading now now') : m.isPending now = m'.isPending now' := by
  obtain ⟨hlive, hexpired⟩ := h.isLive_isExpired (m'.timeLeft now')
  unfold isPending
  rw [h.timeLeft_eq hsense hnow, hlive, hexpired]

theorem fate_eq (h : m.Like sense m') (hsense : sense.Lawful) (hnow : sense.reading now now') :
    m.fate now = m'.fate now' := by
  obtain ⟨hlive, hexpired⟩ := h.isLive_isExpired (m'.timeLeft now')
  unfold fate
  rw [h.timeLeft_eq hsense hnow, hlive, hexpired]

theorem opacity_eq (h : m.Like sense m') (hsense : sense.Lawful) (hnow : sense.reading now now') :
    m.opacity (m.timeLeft now) = m'.opacity (m'.timeLeft now') := by
  have hopacity : m.opacity (m'.timeLeft now') = m'.opacity (m'.timeLeft now') := by
    unfold opacity
    rw [h.fields]
  rw [h.timeLeft_eq hsense hnow, hopacity]

theorem markDrawn (h : m.Like sense m') : m.markDrawn.Like sense m'.markDrawn := by
  refine ⟨?_, h.startedAt, h.picture⟩
  unfold Message.markDrawn
  rw [h.fields]

theorem withPicture (h : m.Like sense m') {picture picture' : Picture}
    (hpicture : sense.picture picture picture') :
    ({ m with picture := picture } : Message).Like sense { m' with picture := picture' } := by
  refine ⟨?_, h.startedAt, hpicture⟩
  rw [h.fields]

/-- What frames leave of messages that are alike is alike if the pictures are. -/
theorem keptAs (h : m.Like sense m') {drawing : Bool} (ha : m.KeptAs drawing a)
    (ha' : m'.KeptAs drawing a') (hpicture : sense.picture a.picture a'.picture) :
    a.Like sense a' := by
  have hstarted : a.startedAt = m.startedAt := by
    rw [ha.fields]
  have hstarted' : a'.startedAt = m'.startedAt := by
    rw [ha'.fields]
  refine ⟨?_, ?_, hpicture⟩
  · rw [hstarted', ha'.fields, h.fields, ha.fields]
  · rw [hstarted, hstarted']
    exact h.startedAt

/-- The same request, made at corresponding readings. -/
theorem toMessage (hsense : sense.Lawful) (hnow : sense.reading now now') (type : MessageType)
    (request : Request) :
    (request.toMessage type now).Like sense (request.toMessage type now') :=
  ⟨rfl, hnow, hsense.picture request.icon⟩

end Message.Like

/-! ## Lists of messages -/

section

variable {ms ms' : List Message} (h : List.Forall₂ (Message.Like sense) ms ms')

include h

theorem forall₂_arrange {m m' : Message} (hm : m.Like sense m') :
    List.Forall₂ (Message.Like sense) (arrange m ms) (arrange m' ms') := by
  induction h with
  | nil => exact .cons hm .nil
  | cons hhead htail ih =>
    unfold arrange
    rw [hm.type, hhead.type]
    split
    · exact .cons hm (.cons hhead htail)
    · exact .cons hhead ih

theorem forall₂_supersede (type : MessageType) :
    List.Forall₂ (Message.Like sense)
      (ms.map fun m => if type.Supersedes m.type then m.discard else m)
      (ms'.map fun m => if type.Supersedes m.type then m.discard else m) := by
  rw [List.forall₂_map_left_iff, List.forall₂_map_right_iff]
  refine h.imp fun m m' hm => ?_
  rw [hm.type]
  split
  · exact hm.discard
  · exact hm

/-- A test that messages which are alike pass alike picks messages that are alike. -/
theorem forall₂_filter {p p' : Message → Bool}
    (hp : ∀ {m m' : Message}, m.Like sense m' → p m = p' m') :
    List.Forall₂ (Message.Like sense) (ms.filter p) (ms'.filter p') :=
  List.rel_filter (fun _ _ hm => iff_of_eq (congrArg (· = true) (hp hm))) h

theorem any_pending_eq (hsense : sense.Lawful) {now now' : Reading} (hnow : sense.reading now now')
    (type : MessageType) (text : String) :
    (ms.any fun m => decide (m.type = type) && (m.isPending now && decide (m.text = text))) =
      ms'.any fun m =>
        decide (m.type = type) && (m.isPending now' && decide (m.text = text)) := by
  induction h with
  | nil => rw [List.any_nil, List.any_nil]
  | cons hhead _ ih =>
    rw [List.any_cons, List.any_cons, ih, hhead.type, hhead.text, hhead.isPending_eq hsense hnow]

end

/-! ## Stacks -/

/-- Two stacks are alike: their layouts correspond, and their messages are alike one by one. -/
structure Stack.Like (sense : Sense) (stack stack' : Stack) : Prop where
  layout : sense.layout stack.layout stack'.layout
  messages : List.Forall₂ (Message.Like sense) stack.toList stack'.toList

namespace Stack.Like

variable {stack stack' : Stack} {now now' : Reading}

theorem empty {layout layout' : StackLayout} (h : sense.layout layout layout') :
    ({ layout := layout } : Stack).Like sense { layout := layout' } :=
  ⟨h, .nil⟩

theorem cleared (h : stack.Like sense stack') : stack.cleared.Like sense stack'.cleared :=
  ⟨h.layout, .nil⟩

theorem enqueue (h : stack.Like sense stack') (hkeyed : stack.Keyed) (hkeyed' : stack'.Keyed)
    {m m' : Message} (hm : m.Like sense m') :
    (Overlay.enqueue stack m).Like sense (Overlay.enqueue stack' m') := by
  constructor
  · rw [layout_enqueue, layout_enqueue]
    exact h.layout
  · rw [toList_enqueue hkeyed, toList_enqueue hkeyed', hm.type]
    exact forall₂_arrange (forall₂_supersede h.messages m'.type) hm

theorem size_eq (h : stack.Like sense stack') : stack.size = stack'.size := by
  have hlength := h.messages.length_eq
  unfold toList OrderedMap.values at hlength
  rw [List.length_map, List.length_map] at hlength
  exact hlength

theorem hasMessage_eq (h : stack.Like sense stack') (hkeyed : stack.Keyed)
    (hkeyed' : stack'.Keyed) (hsense : sense.Lawful) (hnow : sense.reading now now')
    (type : MessageType) (text : String) :
    stack.hasMessage type text now = stack'.hasMessage type text now' := by
  rw [hasMessage_eq_any hkeyed, hasMessage_eq_any hkeyed']
  exact any_pending_eq h.messages hsense hnow type text

end Stack.Like

/-! ## Registries -/

/-- Two registries are alike: stacks of the same names are registered, and the stacks of the names
that are asked about are alike. -/
structure Registry.Like (sense : Sense) (concerns : String → Prop) (registry registry' : Registry) :
    Prop where
  registered : ∀ name, (registry.get? name).isSome = (registry'.get? name).isSome
  stack : ∀ {name stack stack'}, concerns name → registry.get? name = some stack →
    registry'.get? name = some stack' → stack.Like sense stack'

variable {concerns : String → Prop}

namespace Registry.Like

variable {registry registry' : Registry}

theorem get?_eq_none_iff (h : registry.Like sense concerns registry') (name : String) :
    registry.get? name = none ↔ registry'.get? name = none := by
  rw [← Option.not_isSome_iff_eq_none, ← Option.not_isSome_iff_eq_none, h.registered]

/-- A stack that is found in one registry corresponds to one in the other. -/
theorem exists_get? (h : registry.Like sense concerns registry') {name : String} {stack : Stack}
    (hs : registry.get? name = some stack) : ∃ stack', registry'.get? name = some stack' := by
  have hsome := h.registered name
  rw [hs] at hsome
  exact Option.isSome_iff_exists.mp hsome.symm

theorem resolve_eq (h : registry.Like sense concerns registry') (name : String) :
    registry.resolve name = registry'.resolve name := by
  rw [Registry.resolve_eq, Registry.resolve_eq, h.registered]

/-- The stacks have the same names, in the same order. -/
theorem names_eq (h : registry.Like sense concerns registry')
    (hunnamed : registry.named.find? "" = none) (hunnamed' : registry'.named.find? "" = none) :
    registry.names = registry'.names := by
  have hmem : ∀ name, name ∈ registry.names ↔ name ∈ registry'.names := by
    intro name
    unfold names
    rw [← OrderedMap.contains_iff, ← OrderedMap.contains_iff, OrderedMap.contains,
      OrderedMap.contains]
    by_cases hname : name = ""
    · rw [hname, hunnamed, hunnamed']
    · rw [← get?_of_ne hname, ← get?_of_ne hname, h.registered]
  exact OrderedMap.keys_eq_of_mem_iff hmem

/-- The stacks correspond one by one, in their order. -/
theorem forall₂_entries (h : registry.Like sense concerns registry') (hwf : registry.WellFormed)
    (hwf' : registry'.WellFormed) :
    List.Forall₂ (fun e e' => e.1 = e'.1 ∧ (concerns e.1 → e.2.Like sense e'.2)) registry.entries
      registry'.entries := by
  have hnames : registry.entries.map Prod.fst = registry'.entries.map Prod.fst :=
    congrArg ("" :: ·) (h.names_eq hwf.unnamed hwf'.unnamed)
  have hstack : ∀ e ∈ registry.entries, ∀ e' ∈ registry'.entries, e.1 = e'.1 → concerns e.1 →
      e.2.Like sense e'.2 := by
    intro e he e' he' heq hconcerns
    refine h.stack hconcerns ((get?_iff_mem hwf.unnamed).mpr he) ?_
    rw [heq]
    exact (get?_iff_mem hwf'.unnamed).mpr he'
  rw [← List.forall₂_eq_eq_eq, List.forall₂_map_left_iff, List.forall₂_map_right_iff] at hnames
  rw [List.forall₂_iff_zip] at hnames ⊢
  refine ⟨hnames.1, fun {e e'} hzip => ?_⟩
  have heq := hnames.2 hzip
  obtain ⟨he, he'⟩ := List.of_mem_zip hzip
  exact ⟨heq, hstack e he e' he' heq⟩

/-- If everything is asked about, all messages correspond one by one, in their order. -/
theorem messages (h : registry.Like sense (fun _ => True) registry') (hwf : registry.WellFormed)
    (hwf' : registry'.WellFormed) :
    List.Forall₂ (Message.Like sense) registry.messages registry'.messages := by
  have hentries := h.forall₂_entries hwf hwf'
  show List.Forall₂ _ ((registry.entries.map Prod.snd).flatMap Stack.toList)
    ((registry'.entries.map Prod.snd).flatMap Stack.toList)
  generalize registry.entries = entries at hentries ⊢
  generalize registry'.entries = entries' at hentries ⊢
  induction hentries with
  | nil => exact .nil
  | cons he _ ih => exact List.rel_append (he.2 trivial).messages ih

theorem empty (hsense : sense.Lawful) : Registry.empty.Like sense concerns Registry.empty := by
  refine ⟨fun _ => rfl, ?_⟩
  intro name stack stack' _ hs hs'
  rw [get?_empty] at hs hs'
  split at hs
  · cases hs
    rw [if_pos ‹_›] at hs'
    cases hs'
    exact .empty hsense.unnamed
  · cases hs

theorem register (h : registry.Like sense concerns registry') (hsense : sense.Lawful)
    {layout layout' : StackLayout} (hlayout : sense.layout layout layout') :
    (registry.register layout).value.1.Like sense concerns
      (registry'.register layout').value.1 := by
  have hnew : ∀ name, (name = layout.name ∧ registry.get? name = none) ↔
      (name = layout'.name ∧ registry'.get? name = none) := by
    intro name
    rw [hsense.name hlayout, h.get?_eq_none_iff]
  constructor
  · intro name
    rw [get?_register_eq, get?_register_eq]
    by_cases hname : name = layout.name ∧ registry.get? name = none
    · rw [if_pos hname, if_pos ((hnew name).mp hname)]
      rfl
    · rw [if_neg hname, if_neg (mt (hnew name).mpr hname)]
      exact h.registered name
  · intro name stack stack' hconcerns hs hs'
    rw [get?_register_eq] at hs hs'
    by_cases hname : name = layout.name ∧ registry.get? name = none
    · rw [if_pos hname] at hs
      rw [if_pos ((hnew name).mp hname)] at hs'
      cases hs
      cases hs'
      exact .empty hlayout
    · rw [if_neg hname] at hs
      rw [if_neg (mt (hnew name).mpr hname)] at hs'
      exact h.stack hconcerns hs hs'

theorem clear (h : registry.Like sense concerns registry') :
    registry.clear.1.Like sense concerns registry'.clear.1 := by
  constructor
  · intro name
    rw [get?_clear, get?_clear, Option.isSome_map, Option.isSome_map]
    exact h.registered name
  · intro name stack stack' hconcerns hs hs'
    rw [get?_clear] at hs hs'
    obtain ⟨stack₀, hs₀, rfl⟩ := Option.map_eq_some_iff.mp hs
    obtain ⟨stack₀', hs₀', rfl⟩ := Option.map_eq_some_iff.mp hs'
    exact (h.stack hconcerns hs₀ hs₀').cleared

theorem isSome_get?_adjust (registry : Registry) (name : String) (f : Stack → Stack)
    (name' : String) :
    ((registry.adjust name f).get? name').isSome = (registry.get? name').isSome := by
  rw [get?_adjust]
  split
  · exact Option.isSome_map
  · rfl

theorem enqueue (h : registry.Like sense concerns registry') (hwf : registry.WellFormed)
    (hwf' : registry'.WellFormed) (name : String) {m m' : Message} (hm : m.Like sense m') :
    (registry.adjust name (Overlay.enqueue · m)).Like sense concerns
      (registry'.adjust name (Overlay.enqueue · m')) := by
  constructor
  · intro name'
    rw [isSome_get?_adjust, isSome_get?_adjust]
    exact h.registered name'
  · intro name' stack stack' hconcerns hs hs'
    rw [get?_adjust] at hs hs'
    by_cases hname : name' = name
    · rw [if_pos hname] at hs hs'
      obtain ⟨stack₀, hs₀, rfl⟩ := Option.map_eq_some_iff.mp hs
      obtain ⟨stack₀', hs₀', rfl⟩ := Option.map_eq_some_iff.mp hs'
      exact (h.stack hconcerns hs₀ hs₀').enqueue (hwf.keyed _ _ hs₀) (hwf'.keyed _ _ hs₀') hm
    · rw [if_neg hname] at hs hs'
      exact h.stack hconcerns hs hs'

/-- Of a stack that is not asked about anything may become. -/
theorem adjust_left (h : registry.Like sense concerns registry') {name : String}
    (hname : ¬ concerns name) (f : Stack → Stack) :
    (registry.adjust name f).Like sense concerns registry' := by
  constructor
  · intro name'
    rw [isSome_get?_adjust]
    exact h.registered name'
  · intro name' stack stack' hconcerns hs hs'
    have hne : name' ≠ name := by
      rintro rfl
      exact hname hconcerns
    rw [get?_adjust, if_neg hne] at hs
    exact h.stack hconcerns hs hs'

end Registry.Like

/-! ## Overlays -/

/-- Two overlays are alike: drawing is on or off in both, and their margins and registries are
alike. -/
structure Overlay.Like (sense : Sense) (concerns : String → Prop) (overlay overlay' : Overlay) :
    Prop where
  enabled : overlay.enabled = overlay'.enabled
  left : sense.pixels overlay.obscured.left overlay'.obscured.left
  top : sense.pixels overlay.obscured.top overlay'.obscured.top
  registry : overlay.registry.Like sense concerns overlay'.registry

namespace Overlay.Like

variable {overlay overlay' : Overlay} {now now' : Reading}

theorem start (hsense : sense.Lawful) : ({} : Overlay).Like sense concerns {} :=
  ⟨rfl, hsense.pixels, hsense.pixels, .empty hsense⟩

theorem target_eq (h : overlay.Like sense concerns overlay') (request : Request) :
    overlay.target request = overlay'.target request :=
  h.registry.resolve_eq _

theorem messageCount?_eq (h : overlay.Like sense concerns overlay') {name : String}
    (hname : concerns name) : overlay.messageCount? name = overlay'.messageCount? name := by
  unfold messageCount?
  cases hs : overlay.registry.get? name with
  | none => rw [(h.registry.get?_eq_none_iff name).mp hs]
  | some stack =>
    obtain ⟨stack', hs'⟩ := h.registry.exists_get? hs
    rw [hs', Option.map_some, Option.map_some, (h.registry.stack hname hs hs').size_eq]

section

variable (h : overlay.Like sense concerns overlay') (hwf : overlay.registry.WellFormed)
  (hwf' : overlay'.registry.WellFormed) (hsense : sense.Lawful) (hnow : sense.reading now now')

include h hwf hwf' hsense hnow

theorem hasMessage_eq {name : String} (hname : concerns name) (type : MessageType)
    (text : String) :
    overlay.hasMessage now name type text = overlay'.hasMessage now' name type text := by
  unfold hasMessage
  cases hs : overlay.registry.get? name with
  | none => rw [(h.registry.get?_eq_none_iff name).mp hs]
  | some stack =>
    obtain ⟨stack', hs'⟩ := h.registry.exists_get? hs
    rw [hs']
    exact (h.registry.stack hname hs hs').hasMessage_eq (hwf.keyed _ _ hs) (hwf'.keyed _ _ hs')
      hsense hnow type text

variable (type : MessageType) {request : Request}
  (htarget : concerns (overlay.target request))

include htarget

theorem queues_iff :
    overlay.Queues now type request ↔ overlay'.Queues now' type request := by
  rw [← not_iff_not, not_queues_iff, not_queues_iff, ← h.target_eq,
    h.hasMessage_eq hwf hwf' hsense hnow htarget]

/-- A submission to a stack that is asked about has the same result. -/
theorem submission_eq :
    (overlay.submit now type request).value.2 = (overlay'.submit now' type request).value.2 := by
  have hiff := h.queues_iff hwf hwf' hsense hnow type htarget
  by_cases hq : overlay.Queues now type request
  · exact hq.trans (hiff.mp hq).symm
  · rw [submit_of_not_queues hq, submit_of_not_queues (mt hiff.mpr hq)]

theorem submit :
    (overlay.submit now type request).value.1.Like sense concerns
      (overlay'.submit now' type request).value.1 := by
  have hiff := h.queues_iff hwf hwf' hsense hnow type htarget
  by_cases hq : overlay.Queues now type request
  · rw [submit_of_queues hq, submit_of_queues (hiff.mp hq), ← h.target_eq]
    exact { h with
      registry := h.registry.enqueue hwf hwf' _ (.toMessage hsense hnow type request) }
  · rw [submit_of_not_queues hq, submit_of_not_queues (mt hiff.mpr hq)]
    exact h

end

/-- A submission to a stack that is not asked about makes no difference. -/
theorem submit_left (h : overlay.Like sense concerns overlay') {request : Request}
    (htarget : ¬ concerns (overlay.target request)) (now : Reading) (type : MessageType) :
    (overlay.submit now type request).value.1.Like sense concerns overlay' := by
  by_cases hq : overlay.Queues now type request
  · rw [submit_of_queues hq]
    exact { h with registry := h.registry.adjust_left htarget _ }
  · rw [submit_of_not_queues hq]
    exact h

/-! ### Frames -/

section

variable {ρ ρ' : Type} {R : Renderer ρ} {R' : Renderer ρ'} {renderer : ρ} {renderer' : ρ'}
  (h : overlay.Like sense concerns overlay') (hwf : overlay.registry.WellFormed)
  (hwf' : overlay'.registry.WellFormed)

include h hwf hwf'

/-- In two frames, the stacks that are asked about have their turns with stacks that are alike. -/
theorem stack_of_turns {t : Turn ρ} {t' : Turn ρ'} (ht : t ∈ overlay.frameTurns R now renderer)
    (ht' : t' ∈ overlay'.frameTurns R' now' renderer') (hname : t.name = t'.name)
    (hconcerns : concerns t.name) : t.stack.Like sense t'.stack := by
  refine h.registry.stack hconcerns ((Registry.get?_iff_mem hwf.unnamed).mpr
    (mem_entries_of_mem_frameTurns R ht)) ?_
  rw [hname]
  exact (Registry.get?_iff_mem hwf'.unnamed).mpr (mem_entries_of_mem_frameTurns R' ht')

/-- Frames leave registries alike if the turns of the stacks that are asked about do. -/
theorem registry_draw
    (hdrawn : ∀ t ∈ overlay.frameTurns R now renderer,
      ∀ t' ∈ overlay'.frameTurns R' now' renderer', t.name = t'.name → concerns t.name →
        (t.drawn R (overlay.settings now)).stack.Like sense
          (t'.drawn R' (overlay'.settings now')).stack) :
    (overlay.draw R now renderer).overlay.registry.Like sense concerns
      (overlay'.draw R' now' renderer').overlay.registry := by
  constructor
  · intro name
    rw [isSome_get?_draw R hwf, isSome_get?_draw R' hwf']
    exact h.registry.registered name
  · intro name drawn drawn' hconcerns hs hs'
    obtain ⟨t, ht, rfl, rfl⟩ := (get?_draw R hwf).mp hs
    obtain ⟨t', ht', hname, rfl⟩ := (get?_draw R' hwf').mp hs'
    exact hdrawn t ht t' ht' hname.symm hconcerns

end

end Overlay.Like

/-! ## Steps and runs -/

section

variable {ρ ρ' : Type} {draws : Renderer ρ → Renderer ρ' → Prop} {screens : ρ → ρ' → Prop}

/-- Two operations correspond: they are the same but for what may differ, and frames are drawn by
renderers that correspond. -/
inductive Operation.Like (sense : Sense) (draws : Renderer ρ → Renderer ρ' → Prop) :
    Operation ρ → Operation ρ' → Prop
  | submit (type : MessageType) (request : Request) :
    Like sense draws (.submit type request) (.submit type request)
  | register {layout layout' : StackLayout} (h : sense.layout layout layout') :
    Like sense draws (.register layout) (.register layout')
  | enable (on : Bool) : Like sense draws (.enable on) (.enable on)
  | obscureLeft {pixels pixels' : Int32} (h : sense.pixels pixels pixels') :
    Like sense draws (.obscureLeft pixels) (.obscureLeft pixels')
  | obscureTop {pixels pixels' : Int32} (h : sense.pixels pixels pixels') :
    Like sense draws (.obscureTop pixels) (.obscureTop pixels')
  | clear : Like sense draws .clear .clear
  | draw {R : Renderer ρ} {R' : Renderer ρ'} (h : draws R R') :
    Like sense draws (.draw R) (.draw R')

/-- Two steps correspond: their operations do, and they are made at corresponding readings. -/
structure Step.Like (sense : Sense) (draws : Renderer ρ → Renderer ρ' → Prop) (x : Step ρ)
    (x' : Step ρ') : Prop where
  now : sense.reading x.now x'.now
  operation : x.operation.Like sense draws x'.operation

/-- A step corresponds to itself if its reading, its layout or margin, and its renderer do. -/
theorem Step.Like.same {draws : Renderer ρ → Renderer ρ → Prop}
    (hreading : ∀ now, sense.reading now now) (hlayout : ∀ layout, sense.layout layout layout)
    (hpixels : ∀ pixels, sense.pixels pixels pixels) {step : Step ρ}
    (hdraws : ∀ R, step.operation = .draw R → draws R R) : step.Like sense draws step := by
  obtain ⟨now, operation⟩ := step
  refine ⟨hreading now, ?_⟩
  cases operation with
  | submit type request => exact .submit type request
  | register layout => exact .register (hlayout layout)
  | enable on => exact .enable on
  | obscureLeft pixels => exact .obscureLeft (hpixels pixels)
  | obscureTop pixels => exact .obscureTop (hpixels pixels)
  | clear => exact .clear
  | draw R => exact .draw (hdraws R rfl)

/-- Frames of renderers that correspond, drawn of what is alike on states that correspond, leave
what is alike and states that correspond. -/
def Sense.Frames (sense : Sense) (concerns : String → Prop)
    (draws : Renderer ρ → Renderer ρ' → Prop) (screens : ρ → ρ' → Prop) : Prop :=
  ∀ {overlay overlay' : Overlay} {now now' : Reading} {R : Renderer ρ} {R' : Renderer ρ'}
    {renderer : ρ} {renderer' : ρ'},
    overlay.registry.WellFormed → overlay'.registry.WellFormed →
    overlay.Like sense concerns overlay' → sense.reading now now' → draws R R' →
    screens renderer renderer' →
      (overlay.draw R now renderer).overlay.Like sense concerns
          (overlay'.draw R' now' renderer').overlay ∧
        screens (overlay.draw R now renderer).canvas.renderer
          (overlay'.draw R' now' renderer').canvas.renderer

namespace Session

/-- Two sessions are alike: their overlays are, and the states of their renderers correspond. -/
structure Like (sense : Sense) (concerns : String → Prop) (screens : ρ → ρ' → Prop)
    (s : Session ρ) (s' : Session ρ') : Prop where
  overlay : s.overlay.Like sense concerns s'.overlay
  renderer : screens s.renderer s'.renderer

namespace Like

variable {s : Session ρ} {s' : Session ρ'}

theorem start (hsense : sense.Lawful) {renderer : ρ} {renderer' : ρ'}
    (h : screens renderer renderer') :
    (start renderer).Like sense concerns screens (start renderer') :=
  ⟨.start hsense, h⟩

/-- Corresponding steps leave what is alike alike, if submissions are to stacks that are asked
about. -/
theorem step (h : s.Like sense concerns screens s') (hs : s.WellFormed) (hs' : s'.WellFormed)
    (hsense : sense.Lawful) (hframes : sense.Frames concerns draws screens) {x : Step ρ}
    {x' : Step ρ'} (hx : x.Like sense draws x')
    (hconcerns : ∀ type request, x.operation = .submit type request →
      concerns (s.overlay.target request)) :
    (s.step x).Like sense concerns screens (s'.step x') := by
  obtain ⟨now, operation⟩ := x
  obtain ⟨now', operation'⟩ := x'
  obtain ⟨hnow, hoperation⟩ := hx
  cases hoperation with
  | submit type request =>
    exact ⟨h.overlay.submit hs hs' hsense hnow type (hconcerns type request rfl), h.renderer⟩
  | register hlayout =>
    exact ⟨{ h.overlay with registry := h.overlay.registry.register hsense hlayout }, h.renderer⟩
  | enable on => exact ⟨{ h.overlay with enabled := rfl }, h.renderer⟩
  | obscureLeft hpixels => exact ⟨{ h.overlay with left := hpixels }, h.renderer⟩
  | obscureTop hpixels => exact ⟨{ h.overlay with top := hpixels }, h.renderer⟩
  | clear => exact ⟨{ h.overlay with registry := h.overlay.registry.clear }, h.renderer⟩
  | draw hdraws =>
    obtain ⟨hoverlay, hrenderer⟩ := hframes hs hs' h.overlay hnow hdraws h.renderer
    exact ⟨hoverlay, hrenderer⟩

/-- Corresponding runs leave what is alike alike, if everything is asked about. -/
theorem run (h : s.Like sense (fun _ => True) screens s') (hs : s.WellFormed) (hs' : s'.WellFormed)
    (hsense : sense.Lawful) (hframes : sense.Frames (fun _ => True) draws screens)
    {steps : List (Step ρ)} {steps' : List (Step ρ')}
    (hsteps : List.Forall₂ (Step.Like sense draws) steps steps') :
    (s.run steps).Like sense (fun _ => True) screens (s'.run steps') := by
  induction hsteps generalizing s s' with
  | nil => exact h
  | cons hx _ ih =>
    exact ih (h.step hs hs' hsense hframes hx fun _ _ _ => trivial) (wellFormed_step s _ hs)
      (wellFormed_step s' _ hs')

end Like

end Session

end

end OnScreen
