import Colord.Interface
import Colord.Device
import Colord.ProfileArray
import Colord.Notify
import Colord.Bind
import Colord.Run
import Colord.Lifecycle
import Colord.Sync
import Colord.Recovery
import Colord.Time
