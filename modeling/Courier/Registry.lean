import Courier.Channel

/-!
# Registry

The senders of a deployment, by place.  A kind of channel is served by the last sender registered
for it.
-/

namespace Courier

/-- The kinds of channel of the registered senders, in the order of their registration. -/
structure Registry where
  types : List ChannelType
  deriving DecidableEq, Repr

namespace Registry

/-- The place of the last sender of a kind among types that start at `place`. -/
def lastFrom (channelType : ChannelType) : Nat → List ChannelType → Option Nat
  | _, [] => none
  | place, t :: rest =>
    (lastFrom channelType (place + 1) rest).or (if t = channelType then some place else none)

/-- The place of the sender that serves a kind of channel. -/
def sender? (r : Registry) (channelType : ChannelType) : Option Nat :=
  lastFrom channelType 0 r.types

/-- The kinds of channel that are served, in the order of their names. -/
def channelTypes (r : Registry) : List ChannelType :=
  ChannelType.all.filter fun t => decide (t ∈ r.types)

end Registry

end Courier
