import GameRealm.Proofs.AnyOrder
import GameRealm.Proofs.SocketUse
import GameRealm.Proofs.Delivery
import GameRealm.Proofs.Disconnect
import GameRealm.Proofs.FaultKick
import GameRealm.Proofs.Frames
import GameRealm.Proofs.Grace
import GameRealm.Proofs.Handshake
import GameRealm.Proofs.Manifests
import GameRealm.Proofs.Pace
import GameRealm.Proofs.ReadBack
import GameRealm.Proofs.Rehoming
import GameRealm.Proofs.Saving
import GameRealm.Proofs.Served
import GameRealm.Proofs.Transactions
import GameRealm.Proofs.TutorialStore
import GameRealm.Proofs.UnsavedKick
import GameRealm.Realm.Connection
import GameRealm.Realm.Listener
import GameRealm.Region.Exchange
import GameRealm.Rehearsal.Mail
import GameRealm.Rehearsal.Realm
import GameRealm.Rehearsal.Remote
import GameRealm.Proofs.Inflation
import GameRealm.Proofs.AddonListing
import GameRealm.Proofs.AddonBounds
import GameRealm.Proofs.Conduct
import GameRealm.Proofs.Relocation
import GameRealm.Proofs.AccountDataRows
import GameRealm.Proofs.ClockRequests
import GameRealm.Proofs.ClockHistory
import GameRealm.Proofs.RoundTrip
import GameRealm.Proofs.WholeDoubles
import GameRealm.Proofs.MovementTime
import GameRealm.Proofs.Writer
