import Owasm.Basic
import Owasm.VMLogic
import Owasm.Memory
import Owasm.Environment
import Owasm.Imports
import Owasm.Gas
import Owasm.Span
import Owasm.CryptocomparePrice
import Owasm.Safety
import Owasm.Panics
import Owasm.Writes
import Owasm.Sent
import Owasm.Ideal
import Owasm.Refinement
import Owasm.Checked
