import GoeipProofs.Wire
import GoeipProofs.Cpf
import GoeipProofs.Discovery
import GoeipProofs.Encapsulation
import GoeipProofs.Message
import GoeipProofs.Router
import GoeipProofs.Assembly
import GoeipProofs.Connmgr
import GoeipProofs.Path
import GoeipProofs.Client
import GoeipProofs.Logix
import GoeipProofs.Server
import GoeipProofs.Originator
import GoeipProofs.Implicit
import GoeipProofs.Scheduler
import GoeipProofs.SchedulerRuns
import GoeipProofs.Reconnect
import GoeipProofs.Monitor
import GoeipProofs.TagReads
