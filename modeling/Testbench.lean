import Testbench.Main
import Testbench.Proofs.Attribution
import Testbench.Proofs.Budget
import Testbench.Proofs.Restart
import Testbench.Proofs.Driving
import Testbench.Proofs.RegisteredReads
import Testbench.Proofs.BusProtocol
import Testbench.Proofs.Addresses
import Testbench.Proofs.FlatStore
import Testbench.Proofs.Latch
import Testbench.Proofs.Edges
import Testbench.Proofs.SinceReset
import Testbench.Proofs.BusTraffic
import Testbench.Proofs.WordBytes
import Testbench.Proofs.WordMasks
import Testbench.Proofs.Segments
import Testbench.Proofs.RaisedBudgets
import Testbench.Proofs.Records
import Testbench.Proofs.SettingUp
import Testbench.Proofs.TimingRange
import Testbench.Proofs.Flattening
import Testbench.Proofs.FlatteningRange
import Testbench.Proofs.ProgramPlacement
import Testbench.Proofs.Folders
import Testbench.Proofs.Unplugged
import Testbench.Proofs.Encoding
import Testbench.Proofs.RoundTrip
import Testbench.Proofs.ReportFile
import Testbench.Proofs.ExitCode
import Testbench.Proofs.IdleStretch
import Testbench.Proofs.Tally
import Testbench.Proofs.RegionHistory
import Testbench.Proofs.EchoDelivery
import Testbench.Proofs.LogDelivery
import Testbench.Proofs.RowChanges
import Testbench.Proofs.Settings
import Testbench.Proofs.Omissions
