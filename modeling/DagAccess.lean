import DagAccess.AllowList.Pool
import DagAccess.Main
import DagAccess.MergedInput
import DagAccess.Principal.Pool
import DagAccess.Proofs.Logging.Transaction
import DagAccess.Proofs.Manager.Caching
import DagAccess.Proofs.Manager.Failure
import DagAccess.Proofs.Manager.Rendering
import DagAccess.Proofs.Manager.WellFormed
import DagAccess.Proofs.Session.Isolation
import DagAccess.Proofs.Settings.Override
import DagAccess.Proofs.Settings.Partial
import DagAccess.Session
import DagAccess.Text.Quoted
import DagAccess.Proofs.Principal.Finite
import DagAccess.Proofs.Principal.Pool
import DagAccess.Proofs.Acl.RoundTrip
import DagAccess.Proofs.Logging.Tagging
import DagAccess.Proofs.Logging.Output
import DagAccess.Proofs.Settings.Fresh
import DagAccess.Proofs.Manager.Process
import DagAccess.Proofs.Check.Manager
import DagAccess.Proofs.Check.Ending
import DagAccess.Proofs.Acl.Grammar
import DagAccess.Proofs.Manager.Switch
import DagAccess.Proofs.Session.Loaded
import DagAccess.Proofs.Groups.Static
import DagAccess.Proofs.Groups.Command
import DagAccess.Proofs.Manager.Commuting
import DagAccess.Proofs.Settings.Escaping
import DagAccess.Proofs.Settings.Items
import DagAccess.Proofs.Check.Tagging
import DagAccess.Proofs.Logging.Order
import DagAccess.Proofs.MergedInput
import DagAccess.Proofs.Settings.Integers
