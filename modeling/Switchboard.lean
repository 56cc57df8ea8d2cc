import Switchboard.Call.Endpoint
import Switchboard.Client.Dial
import Switchboard.Main
import Switchboard.Proofs.Call.Conveyance
import Switchboard.Proofs.Call.Crossing
import Switchboard.Proofs.Call.Handover
import Switchboard.Proofs.Call.Lasting
import Switchboard.Proofs.Call.Order
import Switchboard.Proofs.Call.Peers
import Switchboard.Proofs.Call.Rejections
import Switchboard.Proofs.Call.Requests
import Switchboard.Proofs.Call.Strangers
import Switchboard.Proofs.Call.Tracks
import Switchboard.Proofs.Call.Undoing
import Switchboard.Proofs.Call.Winding
import Switchboard.Proofs.Client.EndToEnd
import Switchboard.Proofs.Relay.Accounts
import Switchboard.Proofs.Relay.Delivery
import Switchboard.Proofs.Relay.Figures
import Switchboard.Proofs.Relay.Roster
import Switchboard.Proofs.Relay.Startup
import Switchboard.Proofs.Wire.Rearrangement
import Switchboard.Proofs.Wire.Sender
