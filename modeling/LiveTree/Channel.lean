/-!
# The update channel

Messages are sent to all receivers that are subscribed at the time.  The channel keeps a bounded
number of messages; a receiver that falls further behind is told how many it missed and goes on with
the oldest one kept.
-/

namespace LiveTree

/-- A channel: every message sent so far, oldest first, and the position of each receiver in that
    sequence, which is gone once it has unsubscribed. -/
structure Channel (α : Type) where
  capacity : Nat
  sent : List α := []
  receivers : List (Option Nat) := []

/-- What a receiver takes from a channel. -/
inductive Received (α : Type) where
  | message (value : α)
  | lagged (missed : Nat)
  deriving DecidableEq, Repr

namespace Channel

variable {α : Type}

/-- A channel that keeps at least `capacity` messages: the next power of two, and at least one. -/
def create (capacity : Nat) : Channel α where
  capacity := (max capacity 1).nextPowerOfTwo

/-- The least number of messages that there can be no room for. -/
def tooMany : Nat := 0x100000000000000

/-- Whether there can be a channel that keeps at least `capacity` messages. -/
def fits (capacity : Nat) : Bool := (max capacity 1).nextPowerOfTwo < tooMany

/-- How many receivers are subscribed. -/
def subscribers (channel : Channel α) : Nat := channel.receivers.countP (·.isSome)

/-- Adds a receiver of all later messages and answers its number. -/
def subscribe (channel : Channel α) : Channel α × Nat :=
  ({ channel with receivers := channel.receivers ++ [some channel.sent.length] },
    channel.receivers.length)

/-- Removes a receiver. -/
def unsubscribe (channel : Channel α) (receiver : Nat) : Channel α :=
  { channel with receivers := channel.receivers.set receiver none }

/-- Sends a message; without receivers it is lost. -/
def publish (channel : Channel α) (message : α) : Channel α :=
  if channel.subscribers = 0 then channel
  else { channel with sent := channel.sent ++ [message] }

/-- Everything a receiver has not taken yet; `none` for one that is not subscribed. -/
def receive (channel : Channel α) (receiver : Nat) : Channel α × Option (List (Received α)) :=
  match channel.receivers[receiver]? with
  | some (some position) =>
    -- Messages before this one have been overwritten.
    let oldest := channel.sent.length - channel.capacity
    let missed := if position < oldest then [Received.lagged (oldest - position)] else []
    ({ channel with receivers := channel.receivers.set receiver (some channel.sent.length) },
      some (missed ++ (channel.sent.drop (max position oldest)).map .message))
  | _ => (channel, none)

end Channel

end LiveTree
