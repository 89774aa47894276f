import OnScreen.Overlay
import OnScreen.Proofs.OrderedMap

/-!
# Keys of stored messages

A stack numbers its messages as they are inserted, so a new message never takes the key of a stored
one. A message is stored under its own type, which is why working on the keys of one type is working
on the messages of that type.

Results:
* `Stack.Keyed`: the invariant; `Keyed.enqueue` and `Keyed.of_keys`: it is kept.
* `find?_enqueue`: queueing a message adds it and discards the messages that it supersedes.
* `hasMessage_iff`: what the duplicate check looks for.
-/

namespace OnScreen

/-- A message of the first type takes the place of messages of the second: both are typed, and the
types are the same. -/
def MessageType.Supersedes (new old : MessageType) : Prop :=
  new ≠ .typeless ∧ old = new

instance (new old : MessageType) : Decidable (new.Supersedes old) :=
  inferInstanceAs (Decidable (_ ∧ _))

namespace Stack

/-- Every message is stored under its own type, and under a number that was given out before. -/
structure Keyed (stack : Stack) : Prop where
  type : ∀ key m, stack.messages.find? key = some m → m.type = key.type
  sequence : ∀ key m, stack.messages.find? key = some m → key.sequence < stack.nextSequence

variable {stack : Stack}

theorem Keyed.empty (layout : StackLayout) : Keyed { layout := layout } := by
  constructor <;> intro key m h <;> cases h

/-- A stack whose messages are messages of a keyed stack under the same keys is keyed. -/
theorem Keyed.of_keys {stack' : Stack} (h : stack.Keyed)
    (hnext : stack.nextSequence ≤ stack'.nextSequence)
    (hkeys : ∀ key m', stack'.messages.find? key = some m' →
      ∃ m, stack.messages.find? key = some m ∧ m'.type = m.type) : stack'.Keyed := by
  constructor
  · intro key m' hm'
    obtain ⟨m, hm, htype⟩ := hkeys key m' hm'
    rw [htype, h.type key m hm]
  · intro key m' hm'
    obtain ⟨m, hm, -⟩ := hkeys key m' hm'
    exact Nat.lt_of_lt_of_le (h.sequence key m hm) hnext

/-! ## Queueing -/

theorem find?_discardType (stack : Stack) (type : MessageType) (key : Key) :
    (stack.discardType type).1.messages.find? key =
      (stack.messages.find? key).map fun m => if key.type = type then m.discard else m := by
  unfold discardType
  rw [OrderedMap.find?_adjustAll]
  simp only [decide_eq_true_eq]

theorem nextSequence_enqueue (stack : Stack) (m : Message) :
    (Overlay.enqueue stack m).nextSequence = stack.nextSequence + 1 := by
  unfold Overlay.enqueue
  cases m.type <;> rfl

theorem layout_enqueue (stack : Stack) (m : Message) :
    (Overlay.enqueue stack m).layout = stack.layout := by
  unfold Overlay.enqueue
  cases m.type <;> rfl

/-- The queued message is found under the next key of its type; of the others, those that it
supersedes are discarded. -/
theorem find?_enqueue (stack : Stack) (m : Message) (key : Key) :
    (Overlay.enqueue stack m).messages.find? key =
      if key = ⟨m.type, stack.nextSequence⟩ then some m
      else (stack.messages.find? key).map fun m' =>
        if m.type.Supersedes key.type then m'.discard else m' := by
  unfold Overlay.enqueue
  cases ht : m.type with
  | typed tag =>
    show ((stack.discardType (.typed tag)).1.messages.insert ⟨m.type, _⟩ m).find? key = _
    rw [OrderedMap.find?_insert, ht, find?_discardType]
    have hsup : ∀ type, (MessageType.typed tag).Supersedes type ↔ type = .typed tag := by
      intro type
      exact ⟨fun h => h.2, fun h => ⟨by simp, h⟩⟩
    simp only [hsup]
    rfl
  | typeless =>
    show (stack.messages.insert ⟨m.type, _⟩ m).find? key = _
    rw [OrderedMap.find?_insert, ht]
    simp [MessageType.Supersedes]

theorem Keyed.enqueue (h : stack.Keyed) (m : Message) : (Overlay.enqueue stack m).Keyed := by
  constructor
  · intro key m' hm'
    rw [find?_enqueue] at hm'
    split at hm'
    · rename_i hkey
      cases hm'
      rw [hkey]
    · obtain ⟨m₀, hm₀, rfl⟩ := Option.map_eq_some_iff.mp hm'
      rw [← h.type key m₀ hm₀]
      split <;> rfl
  · intro key m' hm'
    rw [nextSequence_enqueue]
    rw [find?_enqueue] at hm'
    split at hm'
    · rename_i hkey
      rw [hkey]
      exact Nat.lt_succ_self _
    · obtain ⟨m₀, hm₀, -⟩ := Option.map_eq_some_iff.mp hm'
      exact Nat.lt_succ_of_lt (h.sequence key m₀ hm₀)

/-! ## The duplicate check -/

/-- A message of this type and text is stored and pending. -/
theorem hasMessage_iff {type : MessageType} {text : String} {now : Reading} :
    stack.hasMessage type text now = true ↔
      ∃ key m, stack.messages.find? key = some m ∧ key.type = type ∧ m.isPending now = true ∧
        m.text = text := by
  unfold hasMessage ofType OrderedMap.select
  rw [List.any_eq_true]
  constructor
  · rintro ⟨m, hm, hp⟩
    obtain ⟨⟨key, m'⟩, he, rfl⟩ := List.mem_map.mp hm
    obtain ⟨he, hkey⟩ := List.mem_filter.mp he
    rw [Bool.and_eq_true, decide_eq_true_eq] at hp
    exact ⟨key, m', OrderedMap.find?_eq_some_iff.mpr he, of_decide_eq_true hkey, hp⟩
  · rintro ⟨key, m, hm, hkey, hp⟩
    refine ⟨m, List.mem_map.mpr ⟨(key, m), List.mem_filter.mpr ⟨?_, ?_⟩, rfl⟩, ?_⟩
    · exact OrderedMap.find?_eq_some_iff.mp hm
    · exact decide_eq_true hkey
    · rw [Bool.and_eq_true, decide_eq_true_eq]
      exact hp

end Stack

end OnScreen
