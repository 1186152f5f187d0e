import Goads.Ams.Buffer
import Goads.Ams.FixedPackets
import Goads.Ams.Header
import Goads.Ams.Notification
import Goads.Ams.Packets
import Goads.Client.Receive
import Goads.Client.Transport
import Goads.Manager.Lifecycle
import Goads.Manager.Samples
import Goads.Manager.Subscription
import Goads.Session.Accepted
import Goads.Session.Addressing
import Goads.Session.Caching
import Goads.Session.Checked
import Goads.Session.Codec
import Goads.Session.FieldPaths
import Goads.Session.Handles
import Goads.Session.NestedWrite
import Goads.Session.Operations
import Goads.Session.Populate
import Goads.Session.Provenance
import Goads.Session.Release
import Goads.Session.Replies
import Goads.Session.SymbolTable
import Goads.Session.Upload
