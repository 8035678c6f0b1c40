import RowQuery.Backend.Script
import RowQuery.Main
import RowQuery.Proofs.Cli.Failure
import RowQuery.Proofs.Cli.Formats
import RowQuery.Proofs.Collection.Ids
import RowQuery.Proofs.Collection.Matrix
import RowQuery.Proofs.Collection.Prefixed
import RowQuery.Proofs.Collection.Removal
import RowQuery.Proofs.Collection.Selection
import RowQuery.Proofs.Collection.Switches
import RowQuery.Proofs.Condition.Grammar
import RowQuery.Proofs.Condition.Meaning
import RowQuery.Proofs.Condition.Refusal
import RowQuery.Proofs.Database.Binding
import RowQuery.Proofs.Decode.Members
import RowQuery.Proofs.Decode.Scalar
import RowQuery.Proofs.Json.Lines
import RowQuery.Proofs.Request.Pairing
import RowQuery.Proofs.Request.Repeated
import RowQuery.Proofs.Request.RoundTrip
import RowQuery.Proofs.Request.Routes
import RowQuery.Proofs.Sql.Enclosed
import RowQuery.Proofs.Sql.OnePass
import RowQuery.Proofs.Sql.Substitution
import RowQuery.Proofs.Statement.Classification
import RowQuery.Proofs.Statement.Determined
import RowQuery.Proofs.Statement.Noninterference
