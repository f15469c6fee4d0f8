import TypeGuard.Guard.Session
import TypeGuard.Json.Form
import TypeGuard.Log.Logger
import TypeGuard.Path
import TypeGuard.Scalar.Integer
import TypeGuard.Scalar.Optional
import TypeGuard.Scalar.Widening
import TypeGuard.Proofs.Guarding
import TypeGuard.Proofs.Boundary
import TypeGuard.Proofs.Braces
import TypeGuard.Proofs.Ensuring
import TypeGuard.Proofs.Members
import TypeGuard.Proofs.Statements
import TypeGuard.Proofs.SourceOrder
import TypeGuard.Proofs.OwnGuards
import TypeGuard.Proofs.Reordering
import TypeGuard.Proofs.Stripping
import TypeGuard.Proofs.TwoPasses
import TypeGuard.Proofs.Installation
import TypeGuard.Proofs.Rerooting
import TypeGuard.Proofs.RoundTrip
import TypeGuard.Proofs.Settings
import TypeGuard.Proofs.Candidates
import TypeGuard.Proofs.Cutting
import TypeGuard.Proofs.Accounting
import TypeGuard.Proofs.Completeness
import TypeGuard.Proofs.FaultPlaces
import TypeGuard.Proofs.Messages
import TypeGuard.Proofs.Layout
import TypeGuard.Proofs.Formats
import TypeGuard.Proofs.Exactness
