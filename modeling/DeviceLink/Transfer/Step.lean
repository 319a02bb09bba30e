-- Steps of a transfer that is under way on the side of the client: each may call the server, may
-- fail, and may change what is known of the transfer.
import DeviceLink.Client.Caller
import DeviceLink.Transfer.Sequence

namespace DeviceLink.Transfer

/-- How the server replies to a request. -/
abbrev Remote := Request → Reply

/-- An operation on something, which may fail. -/
abbrev Step (σ α : Type) := ExceptT ClientError (StateM σ) α

/-- A result as a step that changes nothing. -/
def Step.ofExcept {σ α : Type} (r : Except ClientError α) : Step σ α := ExceptT.mk (pure r)

end DeviceLink.Transfer
