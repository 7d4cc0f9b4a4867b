import Elementwise.Build
import Elementwise.Command
import Elementwise.Compilation
import Elementwise.Emission
import Elementwise.Extent
import Elementwise.Failure
import Elementwise.Inspection
import Elementwise.Kernel
import Elementwise.Layout
import Elementwise.Logging
import Elementwise.Main
import Elementwise.Number.Basic
import Elementwise.Number.Numeral
import Elementwise.Number.Printer
import Elementwise.Operator
import Elementwise.Session
import Elementwise.Settings
import Elementwise.Table
import Elementwise.Text
import Elementwise.Text.LowerCase
import Elementwise.Value
import Elementwise.Verification
import Elementwise.Proofs.Build
import Elementwise.Proofs.Cache
import Elementwise.Proofs.Caller
import Elementwise.Proofs.Chain
import Elementwise.Proofs.Command
import Elementwise.Proofs.Compilation
import Elementwise.Proofs.Compilation.Dispatch
import Elementwise.Proofs.Compilation.Log
import Elementwise.Proofs.Compilation.Outcome
import Elementwise.Proofs.Emission
import Elementwise.Proofs.Emission.Uniformity
import Elementwise.Proofs.Inspection.Calls
import Elementwise.Proofs.Inspection.Declarations
import Elementwise.Proofs.Inspection.Lines
import Elementwise.Proofs.Inspection.Reader
import Elementwise.Proofs.Inspection.Scan
import Elementwise.Proofs.Kernel.Collision
import Elementwise.Proofs.Kernel.Injectivity
import Elementwise.Proofs.Kernel.Key
import Elementwise.Proofs.Kernel.RoundTrip
import Elementwise.Proofs.Layout
import Elementwise.Proofs.Layout.Definition
import Elementwise.Proofs.Logging
import Elementwise.Proofs.Noninterference
import Elementwise.Proofs.Number.Nearest
import Elementwise.Proofs.Number.Numeral
import Elementwise.Proofs.Number.Order
import Elementwise.Proofs.Number.Printer
import Elementwise.Proofs.Number.Quotient
import Elementwise.Proofs.Number.Rounding
import Elementwise.Proofs.Number.Shortest
import Elementwise.Proofs.Number.Written
import Elementwise.Proofs.Path
import Elementwise.Proofs.Session
import Elementwise.Proofs.Settings
import Elementwise.Proofs.Settings.WorkgroupSize
import Elementwise.Proofs.Stability
import Elementwise.Proofs.Table
import Elementwise.Proofs.Text.Class
import Elementwise.Proofs.Text.Quoted
import Elementwise.Proofs.Verification
import Elementwise.Proofs.Verification.Differences
import Elementwise.Proofs.Workspace
