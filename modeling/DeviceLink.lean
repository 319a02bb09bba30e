import DeviceLink.Main
import DeviceLink.Transfer.Backup
import DeviceLink.Transfer.Restore
import DeviceLink.Proofs.Exchange.RoundTrip
import DeviceLink.Proofs.Frame.Fragments
import DeviceLink.Proofs.Frame.RoundTrip
import DeviceLink.Proofs.Registry.Delivery
import DeviceLink.Proofs.Registry.Independence
import DeviceLink.Proofs.Registry.Replacement
import DeviceLink.Proofs.Server.LastWord
import DeviceLink.Proofs.Server.Lifecycle
import DeviceLink.Proofs.Transfer.Attempt
import DeviceLink.Proofs.Exchange.EndToEnd
import DeviceLink.Proofs.Transfer.Download
import DeviceLink.Proofs.Transfer.Failure
import DeviceLink.Proofs.Json.Codec
import DeviceLink.Proofs.Json.Record
import DeviceLink.Proofs.Transfer.Assembly
import DeviceLink.Proofs.Transfer.Tiling
import DeviceLink.Proofs.Client.Replies
import DeviceLink.Proofs.Client.Calls
import DeviceLink.Proofs.Server.Listening
import DeviceLink.Proofs.Registry.Undisturbed
import DeviceLink.Proofs.Server.Speaking
import DeviceLink.Proofs.Server.Owed
import DeviceLink.Proofs.Server.Conversation
import DeviceLink.Proofs.Server.Stop
import DeviceLink.Proofs.Exchange.Grammar
import DeviceLink.Proofs.Exchange.Decision
import DeviceLink.Proofs.Exchange.OnlineList
import DeviceLink.Proofs.Server.Pushed
import DeviceLink.Proofs.Server.Greeting
import DeviceLink.Proofs.Exchange.Agreement
import DeviceLink.Proofs.Transfer.Words
import DeviceLink.Proofs.Transfer.Naming
import DeviceLink.Proofs.Server.Unframed
import DeviceLink.Proofs.Transfer.Acknowledgement
import DeviceLink.Proofs.Identifier.Decoding
import DeviceLink.Proofs.Identifier.Agreement
import DeviceLink.Proofs.Exchange.Login
import DeviceLink.Proofs.Exchange.AdminRestore
import DeviceLink.Proofs.Transfer.Trust
