import OnScreen.Clock
import OnScreen.Color
import OnScreen.Icon
import OnScreen.Layout
import OnScreen.MessageType

/-!
# Messages

A message is a text on the screen for a limited time. It is queued at one clock reading and lives
for its duration from there. A message that was never drawn is kept for a while after its time is
up, so that it is seen at least once; a message that was drawn goes as soon as its time is up.

* `Message.timeLeft`: the milliseconds left, negative once they are used up.
* `Message.isExpired`, `Message.isPending`: whether the message is to be dropped, or still drawn.
* `Message.fate`: what a frame does with the message.
* `Message.opacity`: first drawn fully opaque, then fading over the last part of its time.
-/

namespace OnScreen

/-- Messages fade over at most this many milliseconds at the end of their time. -/
def fadeWindowMax : UInt32 := 1000

/-- A message that was never drawn is dropped this many milliseconds after its time is up. -/
def dropTimeout : Int64 := 5000

/-- Common durations in milliseconds. -/
def shortDuration : UInt32 := 2000

def normalDuration : UInt32 := 5000

def veryLongDuration : UInt32 := 10000

/-- The name that a renderer gives to an image it holds (`TextureHandle`). -/
structure TextureId where
  number : Nat
  deriving DecidableEq

/-- An uploaded image and the size it is drawn at. -/
structure Texture where
  id : TextureId
  size : Size Single
  deriving DecidableEq

/-- What is left of a message's icon. -/
inductive Picture
  /-- There is none, or its upload failed. -/
  | absent
  /-- It has not been uploaded. -/
  | waiting (icon : Icon)
  /-- A renderer holds it. -/
  | uploaded (texture : Texture)

namespace Picture

/-- The icon, until it is uploaded. -/
def icon? : Picture → Option Icon
  | waiting icon => some icon
  | _ => none

/-- The texture, once there is one. -/
def texture? : Picture → Option Texture
  | uploaded texture => some texture
  | _ => none

/-- There is something to show. -/
def isPresent : Picture → Bool
  | absent => false
  | _ => true

/-- The picture of a message that is queued with or without an icon. -/
def ofIcon? : Option Icon → Picture
  | some icon => waiting icon
  | none => absent

end Picture

/-- Whether a message may still be drawn (`Lifecycle`). -/
inductive Lifecycle
  | live
  /-- A later message of the same type took its place. -/
  | discarded
  deriving DecidableEq

/-- A message: what it shows, and where it is in its life (`Message`). -/
structure Message where
  type : MessageType
  text : String
  /-- Milliseconds from the reading at which it was queued. -/
  duration : UInt32
  color : Color
  scale : Single
  startedAt : Reading
  picture : Picture
  everDrawn : Bool := false
  lifecycle : Lifecycle := .live

/-- What a frame does with a message. -/
inductive Fate
  /-- Its time is up; it is removed. -/
  | expired
  /-- It was superseded; it is removed. -/
  | superseded
  /-- It stays, and is drawn if the frame draws. -/
  | pending
  deriving DecidableEq

/-- The opacity with `left` milliseconds to go, falling in a straight line to zero over the last
part of the duration (`fade_alpha`). -/
def fadeOpacity (left : Int64) (duration : UInt32) : Single :=
  let window :=
    if duration < 1 then 1 else if fadeWindowMax < duration then fadeWindowMax else duration
  Binary.clamp (Binary.ofNat 0) (Binary.ofNat 1)
    (Binary.ofInt left.toInt / Binary.ofNat window.toNat)

namespace Message

/-- The message has not been superseded (`is_live`). -/
def isLive (m : Message) : Bool :=
  m.lifecycle = .live

/-- The milliseconds since the message was queued; none if the clock is behind that. -/
def elapsed (m : Message) (now : Reading) : UInt64 :=
  if now < m.startedAt then 0 else now - m.startedAt

/-- The milliseconds left, as a signed 64-bit word (`time_remaining`). -/
def timeLeft (m : Message) (now : Reading) : Int64 :=
  m.duration.toUInt64.toInt64 - (m.elapsed now).toInt64

/-- With this much time left the message is to be dropped: at once if it was drawn, else after the
drop timeout (`is_expired`). -/
def isExpired (m : Message) (left : Int64) : Bool :=
  decide (left ≤ 0) && (m.everDrawn || decide (dropTimeout ≤ -left))

/-- The message is live and not to be dropped (`is_pending`). -/
def isPending (m : Message) (now : Reading) : Bool :=
  m.isLive && !m.isExpired (m.timeLeft now)

/-- What a frame at this reading does with the message (the tests in `draw_stack`, in its order). -/
def fate (m : Message) (now : Reading) : Fate :=
  if m.isExpired (m.timeLeft now) then .expired
  else if m.isLive then .pending
  else .superseded

/-- The opacity at which the message is drawn with this much time left (`alpha`). -/
def opacity (m : Message) (left : Int64) : Single :=
  if m.everDrawn then fadeOpacity left m.duration else Binary.ofNat 1

/-- The message after it was superseded. -/
def discard (m : Message) : Message :=
  { m with lifecycle := .discarded }

/-- The message after it was drawn. -/
def markDrawn (m : Message) : Message :=
  { m with everDrawn := true }

end Message

end OnScreen
