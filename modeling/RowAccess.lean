import RowAccess.Main
import RowAccess.Principal.Decode
import RowAccess.Script.Run
import RowAccess.Proofs.Audited
import RowAccess.Proofs.BaseTables
import RowAccess.Proofs.Binding
import RowAccess.Proofs.BlankColumns
import RowAccess.Proofs.CacheKeys
import RowAccess.Proofs.ChangedTables
import RowAccess.Proofs.Conjoined
import RowAccess.Proofs.Coverage
import RowAccess.Proofs.Descriptions
import RowAccess.Proofs.Erasure
import RowAccess.Proofs.Explained
import RowAccess.Proofs.Faults
import RowAccess.Proofs.Fidelity
import RowAccess.Proofs.Findings
import RowAccess.Proofs.Histories
import RowAccess.Proofs.Idempotence
import RowAccess.Proofs.Marks
import RowAccess.Proofs.Namespaces
import RowAccess.Proofs.OneTenant
import RowAccess.Proofs.Overlooked
import RowAccess.Proofs.Passes
import RowAccess.Proofs.PlacedTables
import RowAccess.Proofs.RoleOrder
import RowAccess.Proofs.Scopes
import RowAccess.Proofs.Scripted
import RowAccess.Proofs.Stacked
import RowAccess.Proofs.Subtrees
import RowAccess.Proofs.TableNames
import RowAccess.Proofs.Users
import RowAccess.Proofs.WholeQueries
