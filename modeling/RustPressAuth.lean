import RustPressAuth.Atomic.Interleaving
import RustPressAuth.Relational.Table
import RustPressAuth.Runs
import RustPressAuth.Reference
import RustPressAuth.CallProtocol
import RustPressAuth.Rotation
import RustPressAuth.RevokeAll
import RustPressAuth.ResetToken
import RustPressAuth.UserRows
import RustPressAuth.Suspension
import RustPressAuth.Atomic.Sequential
import RustPressAuth.Solo
import RustPressAuth.PasswordChange
import RustPressAuth.Lockout
import RustPressAuth.SessionOutcomes
import RustPressAuth.AccountOutcomes
import RustPressAuth.IssuanceGate
import RustPressAuth.Guessing
import RustPressAuth.Tickets.Ledger
import RustPressAuth.OneTimeLaw
import RustPressAuth.Chains.Replay
import RustPressAuth.SessionChains
import RustPressAuth.SessionLaw
import RustPressAuth.StoredPasswords
import RustPressAuth.Credentials
import RustPressAuth.DeadTokens
import RustPressAuth.LiveTokens
import RustPressAuth.Isolation
import RustPressAuth.FailedRotation
import RustPressAuth.VoidedTokens
import RustPressAuth.Logout
import RustPressAuth.Evaluations
import RustPressAuth.Middleware
import RustPressAuth.IssuerVerifier
import RustPressAuth.Handlers
import RustPressAuth.EmailVerification
import RustPressAuth.Stranded
import RustPressAuth.VerificationPaths
import RustPressAuth.TokenKinds
import RustPressAuth.ForgedLogout
import RustPressAuth.Collisions
import RustPressAuth.Numeric.Rounding
import RustPressAuth.TimeArithmetic
import RustPressAuth.FreshCount
import RustPressAuth.Responses
import RustPressAuth.EmailEnumeration
import RustPressAuth.Registrations
import RustPressAuth.Cells.Writers
import RustPressAuth.Lifecycle
import RustPressAuth.PasswordPolicy
import RustPressAuth.RateLimit
import RustPressAuth.InputLengths
import RustPressAuth.Accounts.Book
import RustPressAuth.AccountLaw
import RustPressAuth.RoleGates
import RustPressAuth.Atomic.Erasure
import RustPressAuth.Refusals
import RustPressAuth.Atomic.Correspondence
import RustPressAuth.Relational.Alike
import RustPressAuth.AlikeRows
import RustPressAuth.AlikeRuns
import RustPressAuth.Atomic.Gated
import RustPressAuth.Throttle.Limiter
import RustPressAuth.Gateway
import RustPressAuth.Recovery
import RustPressAuth.Sql.Command
import RustPressAuth.Sql.Definition
import RustPressAuth.Migrations
import RustPressAuth.Atomic.Origins
import RustPressAuth.TokenRows
import RustPressAuth.RowOrigins
import RustPressAuth.Sql.Integrity
import RustPressAuth.SqlTexts
import RustPressAuth.SqlRows
import RustPressAuth.SqlStatements
import RustPressAuth.Atomic.Representation
import RustPressAuth.SqlRuns
