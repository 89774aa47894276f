import OnScreen.Message

/-!
# Message stacks

A stack holds messages by key: by type, and within a type in the order in which they were inserted.

* `Stack.insert`: stores a message under the next key of its type.
* `Stack.discardType`, `Stack.hasMessage`: work on the keys of one type.
* `Stack.walk`: visits every message once, in key order or in reverse, and removes those that the
  visitor rejects.
-/

namespace OnScreen

/-- Messages by key, and the layout that places them (`MessageStack`). -/
structure Stack where
  layout : StackLayout
  messages : OrderedMap Key Message := ∅
  /-- The sequence number of the next message. It never goes back. -/
  nextSequence : Nat := 0

/-- What a visitor decides about a message (`Visit`). -/
inductive Visit
  | keep
  | remove
  deriving DecidableEq

/-- The result of visiting messages: the visitor's state, the messages that are left, and the
removed ones in the order of the visits. -/
structure Walk (σ : Type) where
  state : σ
  messages : OrderedMap Key Message
  removed : List Message

namespace Stack

variable {σ : Type}

/-- The name under which the stack is registered. -/
def name (stack : Stack) : String :=
  stack.layout.name

/-- The messages in key order (`iter`). -/
def toList (stack : Stack) : List Message :=
  stack.messages.values

/-- The number of messages, those waiting to be removed included. -/
def size (stack : Stack) : Nat :=
  stack.messages.size

/-- The stack holds no message. -/
def isEmpty (stack : Stack) : Bool :=
  stack.messages.entries.isEmpty

/-! ## Messages of one type -/

/-- The messages stored under keys of a type (`of_type`). -/
def ofType (stack : Stack) (type : MessageType) : List Message :=
  stack.messages.select fun key => decide (key.type = type)

/-- A message of this type and text is stored and still to be drawn at this reading
(`has_message`). -/
def hasMessage (stack : Stack) (type : MessageType) (text : String) (now : Reading) : Bool :=
  (stack.ofType type).any fun m => m.isPending now && decide (m.text = text)

/-- Discards every message of a type: the stack afterwards, and the number of these messages, those
that were discarded before included (`discard_type`). -/
def discardType (stack : Stack) (type : MessageType) : Stack × Nat :=
  let isOfType (key : Key) := decide (key.type = type)
  ({ stack with messages := stack.messages.adjustAll isOfType Message.discard },
    (stack.messages.select isOfType).length)

/-- The stack with a message stored after all others of its type (`insert`). -/
def insert (stack : Stack) (m : Message) : Stack :=
  { stack with
    messages := stack.messages.insert ⟨m.type, stack.nextSequence⟩ m
    nextSequence := stack.nextSequence + 1 }

/-- The stack without messages. Sequence numbers go on (`drain`). -/
def cleared (stack : Stack) : Stack :=
  { stack with messages := ∅ }

/-! ## Visiting every message -/

/-- Visits the messages under a list of keys, one after the other (the loop of `walk`). A visitor
gets its state and the message, and answers with both and a decision. -/
def visitKeys (visit : σ → Message → σ × Message × Visit) :
    List Key → σ → OrderedMap Key Message → Walk σ
  | [], s, messages => ⟨s, messages, []⟩
  | key :: keys, s, messages =>
    match messages.find? key with
    | none => visitKeys visit keys s messages
    | some m =>
      match visit s m with
      | (s, m, .keep) => visitKeys visit keys s (messages.adjust key fun _ => m)
      | (s, m, .remove) =>
        let rest := visitKeys visit keys s (messages.erase key)
        { rest with removed := m :: rest.removed }

/-- Visits every message that is stored when the walk begins, in key order or in reverse
(`walk`). -/
def walk (stack : Stack) (reversed : Bool) (visit : σ → Message → σ × Message × Visit) (s : σ) :
    Walk σ :=
  let keys := stack.messages.keys
  visitKeys visit (if reversed then keys.reverse else keys) s stack.messages

/-- The stack with the messages that a walk has left. -/
def afterWalk (stack : Stack) (walk : Walk σ) : Stack :=
  { stack with messages := walk.messages }

end Stack

end OnScreen
