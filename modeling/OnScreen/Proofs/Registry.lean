import OnScreen.Proofs.Stack
import OnScreen.Registry

/-!
# Stored messages of a registry

A message is stored in a stack under a key; the name of the stack and the key together are its id.
The operations of the registry are stated through the message found under an id.

Results:
* `Registry.WellFormed`: the invariant of a registry. It is kept by `WellFormed.register`,
  `WellFormed.clear`, `WellFormed.enqueue` and, for whatever else changes messages in their places,
  by `WellFormed.of_get?`.
* `message?_register`, `message?_clear`, `message?_enqueue`: what is stored after an operation.
* `WellFormed.message?_next`: the id of the next message is free.
-/

namespace OnScreen

/-- Where a message is stored. -/
structure MessageId where
  stack : String
  key : Key
  deriving DecidableEq

namespace Registry

/-- The stacks with their names: the default stack, then the named stacks in order. -/
def entries (registry : Registry) : List (String × Stack) :=
  ("", registry.defaultStack) :: registry.named.entries

/-- The message stored under an id. -/
def message? (registry : Registry) (id : MessageId) : Option Message :=
  (registry.get? id.stack).bind fun stack => stack.messages.find? id.key

/-- The ids of all stored messages, stack by stack. -/
def ids (registry : Registry) : List MessageId :=
  registry.entries.flatMap fun e => e.2.messages.keys.map (MessageId.mk e.1)

/-- The empty name is the default stack's alone, every stack is registered under the name of its
layout, and its messages are stored by their types and below the next number. -/
structure WellFormed (registry : Registry) : Prop where
  unnamed : registry.named.find? "" = none
  name : ∀ name stack, registry.get? name = some stack → stack.name = name
  keyed : ∀ name stack, registry.get? name = some stack → stack.Keyed

/-- The id was given out: a stack of that name is registered, and its next number is greater. -/
def Issued (registry : Registry) (id : MessageId) : Prop :=
  ∃ stack, registry.get? id.stack = some stack ∧ id.key.sequence < stack.nextSequence

variable {registry : Registry}

/-! ## Looking up stacks and messages -/

theorem get?_default (registry : Registry) : registry.get? "" = some registry.defaultStack :=
  if_pos rfl

theorem get?_of_ne {name : String} (h : name ≠ "") :
    registry.get? name = registry.named.find? name :=
  if_neg h

theorem message?_eq_some_iff {id : MessageId} {m : Message} :
    registry.message? id = some m ↔
      ∃ stack, registry.get? id.stack = some stack ∧ stack.messages.find? id.key = some m :=
  Option.bind_eq_some_iff

theorem message?_of_get? {name : String} {stack : Stack} (h : registry.get? name = some stack)
    (key : Key) : registry.message? ⟨name, key⟩ = stack.messages.find? key := by
  show (registry.get? name).bind _ = _
  rw [h]
  rfl

theorem mem_names_of_get? {name : String} {stack : Stack} (h : registry.get? name = some stack) :
    name = "" ∨ name ∈ registry.names := by
  by_cases hn : name = ""
  · exact Or.inl hn
  · rw [get?_of_ne hn, OrderedMap.find?_eq_some_iff] at h
    exact Or.inr (OrderedMap.mem_keys_of_mem h)

theorem get?_iff_mem (h : registry.named.find? "" = none) {name : String} {stack : Stack} :
    registry.get? name = some stack ↔ (name, stack) ∈ registry.entries := by
  unfold entries
  rw [List.mem_cons]
  by_cases hn : name = ""
  · subst hn
    rw [get?_default]
    constructor
    · intro hs
      cases hs
      exact Or.inl rfl
    · rintro (hs | hs)
      · cases hs
        rfl
      · rw [← OrderedMap.find?_eq_some_iff, h] at hs
        cases hs
  · rw [get?_of_ne hn, OrderedMap.find?_eq_some_iff]
    constructor
    · exact Or.inr
    · rintro (hs | hs)
      · exact absurd (congrArg Prod.fst hs) hn
      · exact hs

/-- No two stacks have one name. -/
theorem WellFormed.nodup_names (h : registry.WellFormed) :
    (registry.entries.map Prod.fst).Nodup := by
  unfold entries
  rw [List.map_cons, List.nodup_cons]
  exact ⟨OrderedMap.find?_eq_none_iff.mp h.unnamed, registry.named.nodup_keys⟩

theorem WellFormed.mem_ids_iff (h : registry.WellFormed) {id : MessageId} :
    id ∈ registry.ids ↔ (registry.message? id).isSome = true := by
  unfold ids
  rw [List.mem_flatMap, Option.isSome_iff_exists]
  constructor
  · rintro ⟨⟨name, stack⟩, he, hid⟩
    obtain ⟨key, hkey, rfl⟩ := List.mem_map.mp hid
    obtain ⟨e, he', rfl⟩ := List.mem_map.mp hkey
    refine ⟨e.2, ?_⟩
    rw [message?_of_get? ((get?_iff_mem h.unnamed).mpr he), OrderedMap.find?_eq_some_iff]
    exact he'
  · rintro ⟨m, hm⟩
    obtain ⟨stack, hs, hk⟩ := message?_eq_some_iff.mp hm
    refine ⟨(id.stack, stack), (get?_iff_mem h.unnamed).mp hs, List.mem_map.mpr ⟨id.key, ?_, rfl⟩⟩
    exact OrderedMap.mem_keys_of_mem (OrderedMap.find?_eq_some_iff.mp hk)

/-- No two stored messages have one id. -/
theorem WellFormed.nodup_ids (h : registry.WellFormed) : registry.ids.Nodup := by
  unfold ids
  rw [List.nodup_flatMap]
  constructor
  · intro e _
    exact e.2.messages.nodup_keys.map fun a b hab => congrArg MessageId.key hab
  · apply (List.pairwise_map.mp h.nodup_names).imp
    intro e e' hne id hid hid'
    obtain ⟨k, -, rfl⟩ := List.mem_map.mp hid
    obtain ⟨k', -, heq⟩ := List.mem_map.mp hid'
    exact hne (congrArg MessageId.stack heq).symm

/-- Every stack has a name. -/
theorem WellFormed.exists_name (h : registry.WellFormed) {stack : Stack}
    (hs : stack ∈ registry.allStacks) : ∃ name, registry.get? name = some stack := by
  have hmap : registry.allStacks = registry.entries.map Prod.snd := rfl
  rw [hmap, List.mem_map] at hs
  obtain ⟨⟨name, stack⟩, he, rfl⟩ := hs
  exact ⟨name, (get?_iff_mem h.unnamed).mpr he⟩

/-- A message is stored under its own type. -/
theorem WellFormed.type_eq (h : registry.WellFormed) {id : MessageId} {m : Message}
    (hm : registry.message? id = some m) : m.type = id.key.type := by
  obtain ⟨stack, hs, hk⟩ := message?_eq_some_iff.mp hm
  exact (h.keyed _ _ hs).type _ _ hk

/-- The id of a stored message was given out. -/
theorem WellFormed.issued (h : registry.WellFormed) {id : MessageId} {m : Message}
    (hm : registry.message? id = some m) : registry.Issued id := by
  obtain ⟨stack, hs, hk⟩ := message?_eq_some_iff.mp hm
  exact ⟨stack, hs, (h.keyed _ _ hs).sequence _ _ hk⟩

/-! ## The start -/

theorem get?_empty (name : String) :
    empty.get? name = if name = "" then some { layout := StackLayout.named "" } else none :=
  rfl

theorem WellFormed.empty : WellFormed empty := by
  refine ⟨rfl, ?_, ?_⟩ <;> intro name stack hs <;> rw [get?_empty] at hs <;> split at hs <;>
    cases hs
  · rename_i hn
    exact hn.symm
  · exact Stack.Keyed.empty _

theorem message?_empty (id : MessageId) : empty.message? id = none := by
  unfold message?
  rw [get?_empty]
  split <;> rfl

/-! ## Registering a stack -/

/-- A stack is added if its name is neither empty nor taken; otherwise nothing changes. -/
theorem register_cases (registry : Registry) (layout : StackLayout) :
    (registry.register layout).value = (registry, false) ∨
      (layout.name ≠ "" ∧ registry.get? layout.name = none ∧
        (registry.register layout).value =
          ({ registry with named := registry.named.insert layout.name { layout := layout } },
            true)) := by
  unfold register
  split
  · exact Or.inl rfl
  · rename_i hn
    split
    · exact Or.inl rfl
    · rename_i hc
      have hfree : registry.named.find? layout.name = none :=
        OrderedMap.find?_eq_none_iff.mpr fun hk => hc (OrderedMap.contains_iff.mpr hk)
      exact Or.inr ⟨hn, by rw [get?_of_ne hn, hfree], rfl⟩

/-- What is found after a stack was registered: the stack, without messages, under its name if
nothing was found there before, and otherwise what was found before. -/
theorem get?_register_eq (registry : Registry) (layout : StackLayout) (name : String) :
    (registry.register layout).value.1.get? name =
      if name = layout.name ∧ registry.get? name = none then some { layout := layout }
      else registry.get? name := by
  unfold register
  split
  · rename_i hunnamed
    refine (if_neg ?_).symm
    rintro ⟨hname, hnone⟩
    rw [hname, hunnamed, get?_default] at hnone
    cases hnone
  · rename_i hn
    split
    · rename_i hc
      refine (if_neg ?_).symm
      rintro ⟨hname, hnone⟩
      rw [hname, get?_of_ne hn, OrderedMap.find?_eq_none_iff, ← OrderedMap.contains_iff] at hnone
      exact hnone hc
    · rename_i hc
      by_cases hname : name = layout.name
      · have hfree : registry.get? name = none := by
          rw [hname, get?_of_ne hn, OrderedMap.find?_eq_none_iff, ← OrderedMap.contains_iff]
          exact hc
        rw [if_pos ⟨hname, hfree⟩, hname, get?_of_ne hn, OrderedMap.find?_insert, if_pos rfl]
      · rw [if_neg fun h => hname h.1]
        unfold get?
        rw [OrderedMap.find?_insert, if_neg hname]

theorem get?_register (registry : Registry) (layout : StackLayout) (name : String) :
    (registry.register layout).value.1.get? name = registry.get? name ∨
      (name = layout.name ∧ registry.get? name = none ∧
        (registry.register layout).value.1.get? name = some { layout := layout }) := by
  rw [get?_register_eq]
  split
  · rename_i h
    exact Or.inr ⟨h.1, h.2, rfl⟩
  · exact Or.inl rfl

theorem WellFormed.register (h : registry.WellFormed) (layout : StackLayout) :
    (registry.register layout).value.1.WellFormed := by
  refine ⟨?_, ?_, ?_⟩
  · rcases register_cases registry layout with hr | ⟨hn, -, hr⟩
    · rw [hr]
      exact h.unnamed
    · rw [hr, OrderedMap.find?_insert, if_neg hn.symm]
      exact h.unnamed
  · intro name stack hs
    rcases get?_register registry layout name with hg | ⟨hn, -, hg⟩
    · exact h.name name stack (hg ▸ hs)
    · rw [hg] at hs
      cases hs
      exact hn.symm
  · intro name stack hs
    rcases get?_register registry layout name with hg | ⟨-, -, hg⟩
    · exact h.keyed name stack (hg ▸ hs)
    · rw [hg] at hs
      cases hs
      exact Stack.Keyed.empty layout

/-- A registered stack starts without messages, so nothing stored changes. -/
theorem message?_register (registry : Registry) (layout : StackLayout) (id : MessageId) :
    (registry.register layout).value.1.message? id = registry.message? id := by
  unfold message?
  rcases get?_register registry layout id.stack with hg | ⟨-, hnone, hg⟩
  · rw [hg]
  · rw [hg, hnone]
    rfl

theorem Issued.register {id : MessageId} (h : registry.Issued id) (layout : StackLayout) :
    (registry.register layout).value.1.Issued id := by
  obtain ⟨stack, hs, hlt⟩ := h
  rcases get?_register registry layout id.stack with hg | ⟨-, hnone, -⟩
  · exact ⟨stack, by rw [hg, hs], hlt⟩
  · rw [hnone] at hs
    cases hs

/-! ## Changing the stacks in their places -/

/-- An operation that keeps the names, the layouts and the numbers of the stacks, and leaves
messages only where there were messages of the same type, keeps the invariant. -/
theorem WellFormed.of_get? (h : registry.WellFormed) {registry' : Registry}
    (hunnamed : registry'.named.find? "" = none)
    (hstacks : ∀ name stack', registry'.get? name = some stack' →
      ∃ stack, registry.get? name = some stack ∧ stack'.layout = stack.layout ∧
        stack.nextSequence ≤ stack'.nextSequence ∧
        ∀ key m', stack'.messages.find? key = some m' →
          ∃ m, stack.messages.find? key = some m ∧ m'.type = m.type) :
    registry'.WellFormed := by
  refine ⟨hunnamed, ?_, ?_⟩
  · intro name stack' hs'
    obtain ⟨stack, hs, hlayout, -⟩ := hstacks name stack' hs'
    have hname : stack'.name = stack.name := congrArg Layout.name hlayout
    rw [hname, h.name name stack hs]
  · intro name stack' hs'
    obtain ⟨stack, hs, -, hnext, hkeys⟩ := hstacks name stack' hs'
    exact (h.keyed name stack hs).of_keys hnext hkeys

theorem get?_clear (registry : Registry) (name : String) :
    registry.clear.1.get? name = (registry.get? name).map Stack.cleared := by
  unfold get?
  split
  · rfl
  · exact OrderedMap.find?_map _ _ _

theorem WellFormed.clear (h : registry.WellFormed) : registry.clear.1.WellFormed := by
  apply h.of_get?
  · show (registry.named.map Stack.cleared).find? "" = none
    rw [OrderedMap.find?_map, h.unnamed]
    rfl
  · intro name stack' hs'
    rw [get?_clear] at hs'
    obtain ⟨stack, hs, rfl⟩ := Option.map_eq_some_iff.mp hs'
    refine ⟨stack, hs, rfl, Nat.le_refl _, ?_⟩
    intro key m' hm'
    cases hm'

/-- Nothing is stored after everything was dropped. -/
theorem message?_clear (registry : Registry) (id : MessageId) :
    registry.clear.1.message? id = none := by
  unfold message?
  rw [get?_clear]
  cases registry.get? id.stack <;> rfl

theorem Issued.clear {id : MessageId} (h : registry.Issued id) : registry.clear.1.Issued id := by
  obtain ⟨stack, hs, hlt⟩ := h
  exact ⟨stack.cleared, by rw [get?_clear, hs]; rfl, hlt⟩

theorem get?_adjust (registry : Registry) (name : String) (f : Stack → Stack) (name' : String) :
    (registry.adjust name f).get? name' =
      if name' = name then (registry.get? name').map f else registry.get? name' := by
  unfold adjust
  by_cases hn : name = ""
  · subst hn
    rw [if_pos rfl]
    unfold get?
    by_cases hn' : name' = "" <;> simp [hn']
  · rw [if_neg hn]
    unfold get?
    by_cases hn' : name' = ""
    · rw [if_pos hn', if_pos hn', if_neg (hn' ▸ Ne.symm hn)]
    · rw [if_neg hn', if_neg hn']
      exact OrderedMap.find?_adjust _ _ _ _

/-! ## Queueing a message -/

theorem resolve_eq (registry : Registry) (name : String) :
    registry.resolve name = if (registry.get? name).isSome then name else "" := by
  unfold resolve
  by_cases hn : name = ""
  · rw [hn, ite_self, ite_self]
  · rw [get?_of_ne hn]
    rfl

/-- A submission goes to a registered stack, whatever its name. -/
theorem get?_resolve (registry : Registry) (name : String) :
    registry.get? (registry.resolve name) = some (registry.stackOf (registry.resolve name)) := by
  have hsome : (registry.get? (registry.resolve name)).isSome = true := by
    unfold resolve
    split
    · rename_i hc
      by_cases hn : name = ""
      · rw [hn]
        rfl
      · rw [get?_of_ne hn]
        exact hc
    · rfl
  obtain ⟨stack, hs⟩ := Option.isSome_iff_exists.mp hsome
  rw [hs, stackOf, hs]
  rfl

theorem WellFormed.enqueue (h : registry.WellFormed) (name : String) (m : Message) :
    (registry.adjust name (Overlay.enqueue · m)).WellFormed := by
  refine ⟨?_, ?_, ?_⟩
  · unfold adjust
    split
    · exact h.unnamed
    · rename_i hn
      rw [OrderedMap.find?_adjust, if_neg (Ne.symm hn)]
      exact h.unnamed
  · intro name' stack' hs'
    rw [get?_adjust] at hs'
    split at hs'
    · obtain ⟨stack, hs, rfl⟩ := Option.map_eq_some_iff.mp hs'
      have hname := congrArg Layout.name (Stack.layout_enqueue stack m)
      exact hname.trans (h.name name' stack hs)
    · exact h.name name' stack' hs'
  · intro name' stack' hs'
    rw [get?_adjust] at hs'
    split at hs'
    · obtain ⟨stack, hs, rfl⟩ := Option.map_eq_some_iff.mp hs'
      exact (h.keyed name' stack hs).enqueue m
    · exact h.keyed name' stack' hs'

/-- What is stored after a message was queued in a registered stack: the message under the next id,
and the messages that it supersedes discarded. -/
theorem message?_enqueue {name : String} {stack : Stack} (hs : registry.get? name = some stack)
    (m : Message) (id : MessageId) :
    (registry.adjust name (Overlay.enqueue · m)).message? id =
      if id = ⟨name, m.type, stack.nextSequence⟩ then some m
      else (registry.message? id).map fun m' =>
        if id.stack = name ∧ m.type.Supersedes id.key.type then m'.discard else m' := by
  obtain ⟨name', key⟩ := id
  show ((registry.adjust name (Overlay.enqueue · m)).get? name').bind _ = _
  rw [get?_adjust]
  by_cases hn : name' = name
  · subst hn
    rw [if_pos rfl, hs, message?_of_get? hs]
    show (Overlay.enqueue stack m).messages.find? key = _
    rw [Stack.find?_enqueue]
    simp only [MessageId.mk.injEq, true_and]
  · rw [if_neg hn, if_neg fun h => hn (congrArg MessageId.stack h)]
    simp only [hn, false_and, if_false, Option.map_id']
    rfl

theorem Issued.enqueue {id : MessageId} (h : registry.Issued id) (name : String) (m : Message) :
    (registry.adjust name (Overlay.enqueue · m)).Issued id := by
  obtain ⟨stack, hs, hlt⟩ := h
  unfold Issued
  rw [get?_adjust, hs]
  split
  · exact ⟨_, rfl, by rw [Stack.nextSequence_enqueue]; exact Nat.lt_succ_of_lt hlt⟩
  · exact ⟨stack, rfl, hlt⟩

/-- The id under which the next message of a type is stored in a stack. -/
def next (registry : Registry) (name : String) (type : MessageType) : MessageId :=
  ⟨name, type, (registry.stackOf name).nextSequence⟩

/-- An id that was given out is not given out again. -/
theorem Issued.ne_next {id : MessageId} (h : registry.Issued id) (name : String)
    (type : MessageType) : id ≠ registry.next name type := by
  rintro rfl
  obtain ⟨stack, hs, hlt⟩ := h
  have hstack : registry.stackOf name = stack := by
    rw [stackOf, show registry.get? name = some stack from hs]
    rfl
  have hlt' : (registry.stackOf name).nextSequence < stack.nextSequence := hlt
  rw [hstack] at hlt'
  exact absurd hlt' (Nat.lt_irrefl _)

/-- Nothing is stored under the next id. -/
theorem WellFormed.message?_next (h : registry.WellFormed) (name : String) (type : MessageType) :
    registry.message? (registry.next name type) = none := by
  cases hm : registry.message? (registry.next name type) with
  | none => rfl
  | some m => exact absurd rfl ((h.issued hm).ne_next name type)

end Registry

end OnScreen
