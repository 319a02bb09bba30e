-- Why a peer cannot be reached, and what that is called.
import DeviceLink.Duration

namespace DeviceLink.Network

/-- Why a peer could not be dialled. -/
inductive DialFailure
  | networkUnreachable
  | connectionRefused
  | timedOut (limit : Duration)
  /-- Whatever else the system gives as the reason. -/
  | other (reason : String)
deriving Repr, DecidableEq

/-- The wording of a failure. -/
def DialFailure.message : DialFailure → String
  | .networkUnreachable => "Network is unreachable (os error 101)"
  | .connectionRefused => "Connection refused (os error 111)"
  | .timedOut limit => s!"connect timed out after {limit.text}"
  | .other reason => reason

end DeviceLink.Network
