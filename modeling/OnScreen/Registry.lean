import OnScreen.Event
import OnScreen.Stack

/-!
# The registry of stacks

There is one default stack, always, and any number of named stacks in the byte order of their names.
A name is registered once; it is never removed, and its layout never changes. The empty name stands
for the default stack.

* `Registry.register`: adds a named stack, unless the name is empty or taken.
* `Registry.get?`: the stack of a name; `Registry.resolve`: the name of the stack that a message for
  a name goes to.
* `Registry.clear`: empties every stack and remembers the textures that are to be destroyed.
-/

namespace OnScreen

/-- A result, with the events reported on the way to it. -/
structure Reported (α : Type) where
  value : α
  events : List Event := []

/-- The default stack, the named stacks, and textures of removed messages that wait for a frame to
destroy them (`StackRegistry`). -/
structure Registry where
  defaultStack : Stack
  named : OrderedMap String Stack
  orphans : List TextureId

namespace Registry

/-- The registry with an empty default stack only. -/
def empty : Registry where
  defaultStack := { layout := StackLayout.named "" }
  named := ∅
  orphans := []

instance : Inhabited Registry := ⟨empty⟩

/-- The registry with a new stack, and whether it was added. A stack that is already there stays as
it is (`add_stack`). -/
def register (registry : Registry) (layout : StackLayout) : Reported (Registry × Bool) :=
  if layout.name = "" then ⟨(registry, false), [.stackWithoutName]⟩
  else if registry.named.contains layout.name then
    ⟨(registry, false), [.stackAlreadyRegistered layout.name]⟩
  else
    ⟨({ registry with named := registry.named.insert layout.name { layout := layout } }, true),
      [.stackRegistered layout.name layout.direction]⟩

/-- The stack of a name; the default stack for the empty name (`get`). -/
def get? (registry : Registry) (name : String) : Option Stack :=
  if name = "" then some registry.defaultStack else registry.named.find? name

/-- The name of the stack that takes the messages for a name: the default stack for every name that
is not registered (`resolve_mut`). -/
def resolve (registry : Registry) (name : String) : String :=
  if registry.named.contains name then name else ""

/-- What is reported when a name is resolved (`resolve_mut`). -/
def resolveEvents (registry : Registry) (name : String) : List Event :=
  if registry.named.contains name ∨ name = "" then [] else [.unknownStack name]

/-- The stack of a resolved name. -/
def stackOf (registry : Registry) (name : String) : Stack :=
  (registry.get? name).getD registry.defaultStack

/-- The registry with the stack of a resolved name changed. -/
def adjust (registry : Registry) (name : String) (f : Stack → Stack) : Registry :=
  if name = "" then { registry with defaultStack := f registry.defaultStack }
  else { registry with named := registry.named.adjust name f }

/-- The names of the named stacks, in order (`stack_names`). -/
def names (registry : Registry) : List String :=
  registry.named.keys

/-- The default stack, then the named stacks in order (`stacks_mut`). -/
def allStacks (registry : Registry) : List Stack :=
  registry.defaultStack :: registry.named.values

/-- Every stored message: stack by stack, and in key order within a stack. -/
def messages (registry : Registry) : List Message :=
  registry.allStacks.flatMap Stack.toList

/-- The textures that stored messages hold. -/
def textures (registry : Registry) : List TextureId :=
  registry.messages.filterMap fun m => m.picture.texture?.map Texture.id

/-- The registry with every stack empty and the number of messages removed. Stacks stay registered
(`clear`). -/
def clear (registry : Registry) : Registry × Nat :=
  ({ defaultStack := registry.defaultStack.cleared
     named := registry.named.map Stack.cleared
     orphans := registry.orphans ++ registry.textures },
    registry.messages.length)

end Registry

end OnScreen
