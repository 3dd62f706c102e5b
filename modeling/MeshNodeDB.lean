import MeshNodeDB.Types
import MeshNodeDB.Catalog
import MeshNodeDB.Update
import MeshNodeDB.NodeNum
import MeshNodeDB.Channel
import MeshNodeDB.Boot
import MeshNodeDB.Invariants
import MeshNodeDB.Order
import MeshNodeDB.Interrupt
import MeshNodeDB.Init
import MeshNodeDB.Persist
import MeshNodeDB.Radio
import MeshNodeDB.Online
import MeshNodeDB.Reader
import MeshNodeDB.FiniteMap
import MeshNodeDB.Firmware
import MeshNodeDB.Flash
