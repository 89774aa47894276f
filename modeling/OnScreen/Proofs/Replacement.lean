import Mathlib.Data.List.Induction
import OnScreen.Proofs.Expiry
import OnScreen.Proofs.Session
import OnScreen.Renderer.Headless

/-!
# Replacement of typed messages

A typed message takes the place of the messages of its type in its stack: they are discarded when it
is queued, never drawn again, and removed by the next frame.

Results:
* `liveUnique_run`: of each type, a stack has one live message at most.
* `lastAdded_run`: a live message is the last of its type that was queued in its stack.
* `typed_replacement`: both, and what becomes of the superseded messages.
-/

namespace OnScreen.Session

variable {ρ : Type}

/-! ## Live messages -/

/-- A live message was queued in this step, or it was live before and is not superseded in it. -/
theorem live_step (s : Session ρ) (x : Step ρ) (h : s.WellFormed) {id : MessageId} {m' : Message}
    (hm' : (s.step x).message? id = some m') (hlive : m'.isLive = true) :
    Adds id s x ∨
      ∃ m, s.message? id = some m ∧ m.isLive = true ∧ ¬ Supersedes id s x := by
  refine (adds_or_remained s x h hm').imp_right ?_
  rintro ⟨m, hm, hremained⟩
  refine ⟨m, hm, ?_⟩
  cases hremained with
  | kept hframe _ hkept =>
    rw [hkept.isLive] at hlive
    exact ⟨hlive, fun hsup => hsup.not_isFrame hframe⟩
  | superseded _ _ hafter =>
    rw [hafter] at hlive
    cases hlive
  | same _ hsup hafter => exact ⟨hafter ▸ hlive, hsup⟩

/-- The ids are for the same stack and the same type, and the type is not typeless. -/
def SameType (id id' : MessageId) : Prop :=
  id.stack = id'.stack ∧ id.key.type.Supersedes id'.key.type

/-- A message that is queued supersedes the others of its type. -/
theorem Adds.supersedes {id id' : MessageId} {s : Session ρ} {x : Step ρ} (h : Adds id s x)
    (hsame : SameType id id') : Supersedes id' s x := by
  obtain ⟨type, request, hop, hq, rfl⟩ := h
  exact ⟨type, request, hop, hq, hsame.1.symm, hsame.2⟩

theorem Adds.unique {id id' : MessageId} {s : Session ρ} {x : Step ρ} (h : Adds id s x)
    (h' : Adds id' s x) : id = id' := by
  obtain ⟨type, request, hop, -, rfl⟩ := h
  obtain ⟨type', request', hop', -, rfl⟩ := h'
  rw [hop] at hop'
  cases hop'
  rfl

theorem SameType.symm {id id' : MessageId} (h : SameType id id') : SameType id' id := by
  obtain ⟨hstack, htype, heq⟩ := h
  exact ⟨hstack.symm, heq.symm ▸ htype, heq.symm⟩

/-- Live messages of the same stack and type are the same message. -/
def LiveUnique (s : Session ρ) : Prop :=
  ∀ id id' m m', SameType id id' → s.message? id = some m → m.isLive = true →
    s.message? id' = some m' → m'.isLive = true → id = id'

theorem LiveUnique.eq_of_typed {s : Session ρ} (h : s.LiveUnique) {id id' : MessageId}
    {tag : UInt32} (hstack : id.stack = id'.stack) (htype : id.key.type = .typed tag)
    (htype' : id'.key.type = .typed tag) (hlive : ∃ m, s.message? id = some m ∧ m.isLive = true)
    (hlive' : ∃ m, s.message? id' = some m ∧ m.isLive = true) : id = id' := by
  obtain ⟨m, hm, hlive⟩ := hlive
  obtain ⟨m', hm', hlive'⟩ := hlive'
  have hsame : SameType id id' := by
    refine ⟨hstack, ?_, htype'.trans htype.symm⟩
    rw [htype]
    simp
  exact h id id' m m' hsame hm hlive hm' hlive'

theorem liveUnique_start (renderer : ρ) : (start renderer).LiveUnique := by
  intro id id' m m' _ hm
  rw [show (start renderer).message? id = none from Registry.message?_empty id] at hm
  cases hm

theorem liveUnique_step (s : Session ρ) (x : Step ρ) (h : s.WellFormed) (hs : s.LiveUnique) :
    (s.step x).LiveUnique := by
  intro id id' m m' hsame hm hlive hm' hlive'
  rcases live_step s x h hm hlive with hadds | ⟨m₀, hm₀, hlive₀, hsup⟩
  · rcases live_step s x h hm' hlive' with hadds' | ⟨m₀', -, -, hsup'⟩
    · exact hadds.unique hadds'
    · -- the other message would be superseded in this step
      exact absurd (hadds.supersedes hsame) hsup'
  · rcases live_step s x h hm' hlive' with hadds' | ⟨m₀', hm₀', hlive₀', -⟩
    · exact absurd (hadds'.supersedes hsame.symm) hsup
    · exact hs id id' m₀ m₀' hsame hm₀ hlive₀ hm₀' hlive₀'

theorem liveUnique_run (renderer : ρ) (steps : List (Step ρ)) :
    ((start renderer).run steps).LiveUnique :=
  (run_induction (P := fun s => s.WellFormed ∧ s.LiveUnique)
    (fun s x hs => ⟨wellFormed_step s x hs.1, liveUnique_step s x hs.1 hs.2⟩)
    ⟨wellFormed_start renderer, liveUnique_start renderer⟩ steps).2

/-! ## The last message of a type -/

/-- The message with the id was queued in the run, and none that supersedes it was queued later. -/
def LastAdded (s : Session ρ) (id : MessageId) (steps : List (Step ρ)) : Prop :=
  ∃ past x future, steps = past ++ x :: future ∧ Adds id (s.run past) x ∧
    ¬ (s.run (past ++ [x])).WasSuperseded id future

theorem lastAdded_run (renderer : ρ) (steps : List (Step ρ)) {id : MessageId} {m : Message}
    (hm : ((start renderer).run steps).message? id = some m) (hlive : m.isLive = true) :
    (start renderer).LastAdded id steps := by
  induction steps using List.reverseRecOn generalizing m with
  | nil =>
    rw [show ((start renderer).run []).message? id = none from Registry.message?_empty id] at hm
    cases hm
  | append_singleton steps x ih =>
    have hwf := wellFormed_run (wellFormed_start renderer) steps
    rw [run_concat] at hm
    rcases live_step _ x hwf hm hlive with hadds | ⟨m₀, hm₀, hlive₀, hsup⟩
    · exact ⟨steps, x, [], rfl, hadds, not_happens_nil⟩
    · obtain ⟨past, y, future, rfl, hadds, hnot⟩ := ih hm₀ hlive₀
      refine ⟨past, y, future ++ [x], by rw [List.append_assoc, List.cons_append], hadds, ?_⟩
      unfold WasSuperseded
      rw [happens_concat, ← run_append, List.append_assoc]
      exact not_or.mpr ⟨hnot, hsup⟩

/-! ## Superseded messages -/

/-- Whatever is stored under the id is superseded. -/
def Superseded (s : Session ρ) (id : MessageId) : Prop :=
  ∀ m, s.message? id = some m → m.isLive = false

theorem superseded_step (s : Session ρ) (x : Step ρ) (h : s.WellFormed) {id : MessageId}
    (hid : s.Issued id) (hs : s.Superseded id) : (s.step x).Superseded id := by
  intro m' hm'
  cases hlive : m'.isLive with
  | false => rfl
  | true =>
    rcases live_step s x h hm' hlive with hadds | ⟨m, hm, hlive', -⟩
    · exact absurd hadds (hid.not_adds x)
    · rw [hs m hm] at hlive'
      cases hlive'

/-- A superseded message stays superseded. -/
theorem superseded_run {s : Session ρ} (h : s.WellFormed) {id : MessageId} (hid : s.Issued id)
    (hs : s.Superseded id) (steps : List (Step ρ)) : (s.run steps).Superseded id :=
  (run_induction (P := fun s => s.WellFormed ∧ s.Issued id ∧ s.Superseded id)
    (fun s x hs => ⟨wellFormed_step s x hs.1, issued_step s x hs.1 hs.2.1,
      superseded_step s x hs.1 hs.2.1 hs.2.2⟩) ⟨h, hid, hs⟩ steps).2.2

section

variable {s : Session ρ} {id : MessageId}

/-- No frame places a superseded message. -/
theorem Superseded.not_placed (hs : s.Superseded id) (h : s.WellFormed) (R : Renderer ρ)
    (now : Reading) : id ∉ s.overlay.placedIds R now s.renderer := by
  rw [Overlay.mem_placedIds_iff R h]
  rintro ⟨-, m, hm, hp⟩
  rw [Message.isPending_of_not_isLive (hs m hm)] at hp
  cases hp

/-- A frame removes a superseded message that is stored. -/
theorem Superseded.removed (hs : s.Superseded id) (h : s.WellFormed) (R : Renderer ρ)
    (now : Reading) (hm : ∃ m, s.message? id = some m) :
    id ∈ s.overlay.removedIds R now s.renderer := by
  obtain ⟨m, hm⟩ := hm
  exact (Overlay.mem_removedIds_iff R h).mpr ⟨m, hm, Message.isPending_of_not_isLive (hs m hm) now⟩

/-- No superseded message is stored after a frame. -/
theorem Superseded.not_stored (hs : s.Superseded id) (h : s.WellFormed) (R : Renderer ρ)
    (now : Reading) : (s.step ⟨now, .draw R⟩).message? id = none := by
  cases hm : s.message? id with
  | none => exact Overlay.message?_draw_of_none R h hm
  | some m =>
    exact Overlay.message?_draw_of_not_pending R h hm
      (Message.isPending_of_not_isLive (hs m hm) now)

end

/-- Only frames and clearing remove messages. -/
theorem stored_run {s : Session ρ} (h : s.WellFormed) {id : MessageId} {m : Message}
    (hm : s.message? id = some m) {steps : List (Step ρ)}
    (hsteps : ∀ x ∈ steps, ¬ x.IsFrame ∧ x.operation ≠ .clear) :
    ∃ m', (s.run steps).message? id = some m' := by
  induction steps using List.reverseRecOn with
  | nil => exact ⟨m, hm⟩
  | append_singleton steps x ih =>
    obtain ⟨m', hm'⟩ := ih fun y hy => hsteps y (List.mem_append_left _ hy)
    obtain ⟨hframe, hclear⟩ := hsteps x (by simp)
    rw [run_concat]
    cases storedStep _ x (wellFormed_run h steps) hm' with
    | cleared hop _ => exact absurd hop hclear
    | removed hf _ _ => exact absurd hf hframe
    | kept _ hf _ _ _ => exact absurd hf hframe
    | superseded _ _ _ hsome => exact ⟨_, hsome⟩
    | same _ _ _ hsome => exact ⟨_, hsome⟩

/-! ## Counting messages -/

/-- Distinct elements that are all equal are not more than one. -/
theorem length_le_one {α : Type} {l : List α} (hl : l.Nodup) (h : ∀ a ∈ l, ∀ b ∈ l, a = b) :
    l.length ≤ 1 := by
  match l with
  | [] => exact Nat.zero_le 1
  | [a] => exact Nat.le_refl 1
  | a :: b :: l =>
    have hab : a = b := h a (by simp) b (by simp)
    exact absurd (hab ▸ List.mem_cons_self) (List.nodup_cons.mp hl).1

/-- Of the messages of a stack at most one is as told, if all that are have one key. -/
theorem length_stored_le_one {s : Session ρ} {name : String} {stack : Stack}
    (hs : s.overlay.registry.get? name = some stack) {p : Message → Bool}
    (h : ∀ key key' m m', s.message? ⟨name, key⟩ = some m → p m = true →
      s.message? ⟨name, key'⟩ = some m' → p m' = true → key = key') :
    (stack.toList.filter p).length ≤ 1 := by
  unfold Stack.toList OrderedMap.values
  rw [List.filter_map, List.length_map, ← List.length_map (f := Prod.fst)]
  apply length_le_one (stack.messages.nodup_keys.sublist (List.filter_sublist.map Prod.fst))
  have hstored : ∀ key ∈ (stack.messages.entries.filter (p ∘ Prod.snd)).map Prod.fst,
      ∃ m, s.message? ⟨name, key⟩ = some m ∧ p m = true := by
    intro key hkey
    obtain ⟨⟨key, m⟩, he, rfl⟩ := List.mem_map.mp hkey
    obtain ⟨he, hp⟩ := List.mem_filter.mp he
    exact ⟨m, (Registry.message?_of_get? hs key).trans (OrderedMap.find?_eq_some_iff.mpr he), hp⟩
  intro a ha b hb
  obtain ⟨m, hm, hp⟩ := hstored a ha
  obtain ⟨m', hm', hp'⟩ := hstored b hb
  exact h a b m m' hm hp hm' hp'

/-- Of the placements of a frame at most one is as told, if all that are have one id. -/
theorem length_placed_le_one {s : Session ρ} (hwf : s.WellFormed) {σ : Type} (R : Renderer σ)
    {now : Reading} {renderer : σ} {p : MessageId × Placement → Bool}
    (h : ∀ e ∈ s.overlay.placed R now renderer, ∀ e' ∈ s.overlay.placed R now renderer,
      p e = true → p e' = true → e.1 = e'.1) :
    ((s.overlay.placed R now renderer).filter p).length ≤ 1 := by
  rw [← List.length_map (f := Prod.fst)]
  apply length_le_one ((Overlay.nodup_placedIds R hwf).sublist (List.filter_sublist.map Prod.fst))
  intro id hid id' hid'
  obtain ⟨e, he, rfl⟩ := List.mem_map.mp hid
  obtain ⟨e', he', rfl⟩ := List.mem_map.mp hid'
  obtain ⟨he, hp⟩ := List.mem_filter.mp he
  obtain ⟨he', hp'⟩ := List.mem_filter.mp he'
  exact h e he e' he' hp hp'

/-- A stack has at most one live message of a type that is not typeless. -/
theorem LiveUnique.length_live {s : Session ρ} (h : s.LiveUnique) (hwf : s.WellFormed)
    {stack : Stack} (hs : stack ∈ s.overlay.registry.allStacks) (tag : UInt32) :
    (stack.toList.filter fun m => decide (m.type = .typed tag ∧ m.isLive = true)).length ≤ 1 := by
  obtain ⟨name, hget⟩ := hwf.exists_name hs
  refine length_stored_le_one hget ?_
  intro key key' m m' hm hcond hm' hcond'
  obtain ⟨htype, hlive⟩ := of_decide_eq_true hcond
  obtain ⟨htype', hlive'⟩ := of_decide_eq_true hcond'
  have hid : (⟨name, key⟩ : MessageId) = ⟨name, key'⟩ := h.eq_of_typed rfl
    ((Registry.WellFormed.type_eq hwf hm).symm.trans htype)
    ((Registry.WellFormed.type_eq hwf hm').symm.trans htype') ⟨m, hm, hlive⟩ ⟨m', hm', hlive'⟩
  exact congrArg MessageId.key hid

/-- A frame places at most one message of such a type from a stack. -/
theorem LiveUnique.length_placed {s : Session ρ} (h : s.LiveUnique) (hwf : s.WellFormed)
    (R : Renderer ρ) (now : Reading) (stack : String) (tag : UInt32) :
    ((s.overlay.placed R now s.renderer).filter fun e =>
      decide (e.2.stack = stack ∧
        (s.message? e.1).map Message.type = some (.typed tag))).length ≤ 1 := by
  have hstored : ∀ e ∈ s.overlay.placed R now s.renderer,
      decide (e.2.stack = stack ∧ (s.message? e.1).map Message.type = some (.typed tag)) = true →
        e.1.stack = stack ∧ e.1.key.type = .typed tag ∧
          ∃ m, s.message? e.1 = some m ∧ m.isLive = true := by
    intro e he hcond
    obtain ⟨hstack, htype⟩ := of_decide_eq_true hcond
    obtain ⟨m, hm, hp, hpstack, -⟩ := Overlay.of_mem_placed R hwf he
    rw [show s.message? e.1 = some m from hm, Option.map_some] at htype
    exact ⟨hpstack.symm.trans hstack, (Registry.WellFormed.type_eq hwf hm).symm.trans
      (Option.some.inj htype), m, hm, Message.isLive_of_isPending hp⟩
  refine length_placed_le_one hwf R fun e he e' he' hcond hcond' => ?_
  obtain ⟨hstack, htype, hlive⟩ := hstored e he hcond
  obtain ⟨hstack', htype', hlive'⟩ := hstored e' he' hcond'
  exact h.eq_of_typed (hstack.trans hstack'.symm) htype htype' hlive hlive'

/-- A typed message replaces the messages of its type in its stack. In every state of a run, a stack
has at most one live message of each type, the last one of the type that was queued in the stack,
and a frame places at most one. When a typed message is queued, the messages of its type that its
stack holds are not placed by any later frame, and removed by the next one, whether it draws or not;
all other messages stay as they are. -/
theorem typed_replacement (renderer : ρ) (steps : List (Step ρ)) :
    let s := (start renderer).run steps
    (∀ stack ∈ s.overlay.registry.allStacks, ∀ tag,
      (stack.toList.filter fun m => decide (m.type = .typed tag ∧ m.isLive = true)).length ≤ 1) ∧
    (∀ id m, s.message? id = some m → m.isLive = true →
      id.key.type = m.type ∧ (start renderer).LastAdded id steps) ∧
    (∀ (R : Renderer ρ) now,
      (s.overlay.placed R now s.renderer).map Prod.snd =
          (s.overlay.draw R now s.renderer).report.placements ∧
        ∀ stack tag,
          ((s.overlay.placed R now s.renderer).filter fun e =>
            decide (e.2.stack = stack ∧
              (s.message? e.1).map Message.type = some (.typed tag))).length ≤ 1) ∧
    ∀ now tag request, s.overlay.Queues now (.typed tag) request →
      let after := s.step ⟨now, .submit (.typed tag) request⟩
      ∀ id m, s.message? id = some m →
        if id.stack = s.overlay.target request ∧ m.type = .typed tag then
          after.message? id = some m.discard ∧
          ∀ rest (R : Renderer ρ) now,
            let later := after.run rest
            let report := (later.overlay.draw R now later.renderer).report
            report.placements = (later.overlay.placed R now later.renderer).map Prod.snd ∧
              report.pruned = (later.overlay.removedIds R now later.renderer).length ∧
              id ∉ later.overlay.placedIds R now later.renderer ∧
              (later.step ⟨now, .draw R⟩).message? id = none ∧
              ((∀ x ∈ rest, ¬ x.IsFrame ∧ x.operation ≠ .clear) →
                id ∈ later.overlay.removedIds R now later.renderer)
        else after.message? id = some m := by
  intro s
  have hwf : s.WellFormed := wellFormed_run (wellFormed_start renderer) steps
  have hunique : s.LiveUnique := liveUnique_run renderer steps
  refine ⟨fun stack hs tag => hunique.length_live hwf hs tag, ?_, fun R now =>
    ⟨s.overlay.map_snd_placed R now s.renderer, hunique.length_placed hwf R now⟩, ?_⟩
  · intro id m hm hlive
    exact ⟨(Registry.WellFormed.type_eq hwf hm).symm, lastAdded_run renderer steps hm hlive⟩
  · intro now tag request hq after id m hm
    have hid : s.Issued id := Registry.WellFormed.issued hwf hm
    have hafter : after.message? id =
        some (if id.stack = s.overlay.target request ∧
          MessageType.Supersedes (.typed tag) id.key.type then m.discard else m) :=
      Overlay.message?_submit_of_some hwf hq hm
    have htype : m.type = id.key.type := Registry.WellFormed.type_eq hwf hm
    split
    · rename_i hsame
      have hsup : id.stack = s.overlay.target request ∧
          MessageType.Supersedes (.typed tag) id.key.type :=
        ⟨hsame.1, by simp, htype.symm.trans hsame.2⟩
      rw [if_pos hsup] at hafter
      refine ⟨hafter, ?_⟩
      intro rest R now' later report
      have hwf' : after.WellFormed := wellFormed_step s _ hwf
      have hlater : later.WellFormed := wellFormed_run hwf' rest
      have hsuperseded : later.Superseded id := by
        apply superseded_run hwf' (issued_step s _ hwf hid)
        intro m' hm'
        rw [hafter] at hm'
        cases hm'
        rfl
      exact ⟨(Overlay.map_snd_placed R _ now' _).symm, Overlay.draw_pruned R hlater,
        hsuperseded.not_placed hlater R now', hsuperseded.not_stored hlater R now',
        fun hrest => hsuperseded.removed hlater R now' (stored_run hwf' hafter hrest)⟩
    · rename_i hother
      have hsup : ¬ (id.stack = s.overlay.target request ∧
          MessageType.Supersedes (.typed tag) id.key.type) := fun h =>
        hother ⟨h.1, htype.trans h.2.2⟩
      rw [if_neg hsup] at hafter
      exact hafter

/-- A message of the type with number 7, of two seconds. -/
def status (text : String) : Step Headless :=
  ⟨0, .submit (.typed 7) { text := text, duration := 2000, color := Color.green }⟩

/-- Of two messages of one type the first is removed by the next frame, though it does not draw. -/
theorem superseded_removed_undrawn :
    let screen : Headless := { viewport := ⟨Binary.ofNat 640, Binary.ofNat 480⟩ }
    let s := (start screen).run [status "saving", ⟨0, .enable false⟩, status "saved"]
    s.overlay.enabled = false ∧
      (⟨"", ⟨.typed 7, 0⟩⟩ : MessageId) ∈ s.overlay.removedIds Headless.renderer 0 s.renderer ∧
      (s.overlay.draw Headless.renderer 0 s.renderer).report =
        { placements := [], pruned := 1 } := by
  intro screen s
  have h := (typed_replacement screen [status "saving", ⟨0, .enable false⟩]).2.2.2
    0 7 { text := "saved", duration := 2000, color := Color.green } rfl ⟨"", ⟨.typed 7, 0⟩⟩ _ rfl
  rw [if_pos ⟨rfl, rfl⟩] at h
  exact ⟨rfl, (h.2 [] Headless.renderer 0).2.2.2.2 (by simp), by decide +kernel⟩

end OnScreen.Session
