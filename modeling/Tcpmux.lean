import Tcpmux.Frame
import Tcpmux.Run
import Tcpmux.ReadConn.FutureFrames
import Tcpmux.ReadConn.Basic
import Tcpmux.ReadConn.Reassembly
import Tcpmux.ReadConn.Feed
import Tcpmux.ReadConn.Distinct
import Tcpmux.ClientConn.Basic
import Tcpmux.ClientConn.Conservation
import Tcpmux.ClientConn.Terminal
import Tcpmux.Stream
import Tcpmux.Orch
import Tcpmux.Teardown
import Tcpmux.Listener
import Tcpmux.RespLoop.Basic
import Tcpmux.RespLoop.Reassembly
import Tcpmux.RespLoop.Stall
import Tcpmux.RespLoop.Refine
