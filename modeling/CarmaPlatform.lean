import CarmaPlatform.Drivers.Entry
import CarmaPlatform.Drivers.Manager
import CarmaPlatform.Drivers.Scan
import CarmaPlatform.Drivers.Spin
import CarmaPlatform.Drivers.Run
import CarmaPlatform.Drivers.Interleaving
import CarmaPlatform.Roadway.Invariant
import CarmaPlatform.Roadway.Correction
import CarmaPlatform.Roadway.Publish
import CarmaPlatform.Roadway.History
