import MoltenCL.Capacities
import MoltenCL.DefaultDevice
import MoltenCL.Extensions
import MoltenCL.Footprints
import MoltenCL.Tokens
import MoltenCL.Versions
import MoltenCL.Preservation
import MoltenCL.Foundation.Comparison
import MoltenCL.Queries
import MoltenCL.Strings
import MoltenCL.NameVersions
import MoltenCL.Foundation.Records
import MoltenCL.Publishing
import MoltenCL.Handles
import MoltenCL.Enumerations
import MoltenCL.Session
import MoltenCL.Properties
import MoltenCL.Selection
import MoltenCL.Calls
import MoltenCL.Foundation.Enumeration
import MoltenCL.Invariant
import MoltenCL.Statics
import MoltenCL.Device
import MoltenCL.Runtime
import MoltenCL.Host
import MoltenCL.Answers
import MoltenCL.Info
import MoltenCL.Version
import MoltenCL.Header
import MoltenCL.Foundation.Machine
import MoltenCL.Foundation.OptionSet
import MoltenCL.Foundation.TwoCall
import MoltenCL.Foundation.Swift
import MoltenCL.Foundation.SwiftString
import MoltenCL.Foundation.Rounding
import MoltenCL.Foundation.BinaryFormat
import MoltenCL.Foundation.Simulation
import MoltenCL.Half
import MoltenCL.HalfRounding
import MoltenCL.HalfWidening
import MoltenCL.HalfLaws
import MoltenCL.History
import MoltenCL.Catalogue
import MoltenCL.Refinement
import MoltenCL.Clients
import MoltenCL.Validation
import MoltenCL.Foundation.Interleaving
import MoltenCL.Isolation
import MoltenCL.Failures
import MoltenCL.Allocation
