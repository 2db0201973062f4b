import SqlBackend.Text.Ranges
import SqlBackend.Text.Ascii
import SqlBackend.Text.Blank
import SqlBackend.Text.Digit
import SqlBackend.Text.Printable
import SqlBackend.Text.Cased
import SqlBackend.Text.Lowercase
import SqlBackend.Text.Quoted
import SqlBackend.Numeric.Integer
import SqlBackend.Numeric.Binary64
import SqlBackend.Numeric.Shortest
import SqlBackend.Numeric.Real
import SqlBackend.Table
import SqlBackend.Value
import SqlBackend.DriverError
import SqlBackend.Capability
import SqlBackend.ErrorKind
import SqlBackend.Complaint
import SqlBackend.Fault
import SqlBackend.Checked.Basic
import SqlBackend.Checked.Numeral
import SqlBackend.Checked.Field
import SqlBackend.Address.Literal
import SqlBackend.Address.Basic
import SqlBackend.Engine
import SqlBackend.Sql.Literal
import SqlBackend.Sql.Fragment
import SqlBackend.NativeCode
import SqlBackend.Dialect.Basic
import SqlBackend.Dialect.Builtin
import SqlBackend.Dialect.Registry
import SqlBackend.Dialect.Description
import SqlBackend.Action.Call
import SqlBackend.Action.Clock
import SqlBackend.Action.Basic
import SqlBackend.Action.Cleanup
import SqlBackend.Settings.Basic
import SqlBackend.Settings.Source
import SqlBackend.Pool.Size
import SqlBackend.Pool.Properties
import SqlBackend.Pool.Config
import SqlBackend.Pool.Build
import SqlBackend.Versions
import SqlBackend.Connection.Connect
import SqlBackend.Connection.Probe
import SqlBackend.Flush.Wait
import SqlBackend.Flush.Flusher
import SqlBackend.Routine
import SqlBackend.Session.Entity
import SqlBackend.Session.Command
import SqlBackend.Proofs.Table
import SqlBackend.Proofs.Written
import SqlBackend.Proofs.Text.Ascii
import SqlBackend.Proofs.Text.Case
import SqlBackend.Proofs.Text.Trim
import SqlBackend.Proofs.Text.Digit
import SqlBackend.Proofs.Numeric.Range
import SqlBackend.Proofs.Numeric.Numeral
import SqlBackend.Proofs.Action.Trace
import SqlBackend.Proofs.Action.Answer
import SqlBackend.Proofs.Action.Clock
import SqlBackend.Proofs.Dialect.Classification
import SqlBackend.Proofs.Address.Server
import SqlBackend.Proofs.Pool.Properties
import SqlBackend.Proofs.Pool.Size
import SqlBackend.Proofs.Pool.Config
import SqlBackend.Proofs.Pool.Build
import SqlBackend.Proofs.Pool.Validated
import SqlBackend.Proofs.Connection.Verdict
import SqlBackend.Proofs.Connection.Probe
import SqlBackend.Proofs.Connection.Target
import SqlBackend.Proofs.Connection.Arguments
import SqlBackend.Proofs.Connection.Addressed
import SqlBackend.Proofs.Flush.Attempt
import SqlBackend.Proofs.Flush.Release
import SqlBackend.Proofs.Flush.Verdict
import SqlBackend.Proofs.Flush.Handover
import SqlBackend.Proofs.Flush.Warning
import SqlBackend.Proofs.Flush.Confirmation
import SqlBackend.Proofs.Flush.Wait
import SqlBackend.Proofs.Interrupt
import SqlBackend.Proofs.Connection.Server
import SqlBackend.Proofs.Credential.Redacted
import SqlBackend.Proofs.Credential.Flow
import SqlBackend.Proofs.Credential.Withheld
import SqlBackend.Proofs.Credential.Confinement
import SqlBackend.Proofs.Connection.Port
import SqlBackend.Proofs.Connection.File
import SqlBackend.Proofs.Session.Frozen
import SqlBackend.Proofs.Connection.Existence
import SqlBackend.Proofs.Connection.Passed
import SqlBackend.Proofs.Dialect.Place
import SqlBackend.Proofs.Dialect.Folding
import SqlBackend.Proofs.Dialect.Scheme
import SqlBackend.Proofs.Pool.Resolution
import SqlBackend.Proofs.Pool.Coercion
import SqlBackend.Proofs.Sql.Concatenation
import SqlBackend.Proofs.Sql.Escape
import SqlBackend.Proofs.Sql.Fragment
import SqlBackend.Proofs.Sql.Checks
import SqlBackend.Proofs.Sql.Literal
import SqlBackend.Proofs.Sql.Token
import SqlBackend.Proofs.Sql.Separator
import SqlBackend.Proofs.Sql.Expression
import SqlBackend.Proofs.Sql.Reading
import SqlBackend.Proofs.Sql.Form
import SqlBackend.Proofs.Sql.Delimited
import SqlBackend.Proofs.Sql.Padding
import SqlBackend.Proofs.Sql.BitTree
import SqlBackend.Proofs.Sql.Bitwise
import SqlBackend.Proofs.Numeric.Numeral
