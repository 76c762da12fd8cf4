import StatusRouter.Main
import StatusRouter.Requeue.Consumer
import StatusRouter.Routing.Watch
import StatusRouter.SourceStatus
import StatusRouter.Proofs.Condition.Run
import StatusRouter.Proofs.Condition.Aggregate
import StatusRouter.Proofs.Condition.Transition
import StatusRouter.Proofs.Source.Call
import StatusRouter.Proofs.Source.Repetition
import StatusRouter.Proofs.Condition.Severity
import StatusRouter.Proofs.Source.Readiness
import StatusRouter.Proofs.Routing.Offer
import StatusRouter.Proofs.Routing.Operation
import StatusRouter.Proofs.Routing.Notice
import StatusRouter.Proofs.Routing.Replica
import StatusRouter.Proofs.Condition.Extension
import StatusRouter.Proofs.Routing.Record
import StatusRouter.Proofs.Routing.Conservation
import StatusRouter.Proofs.Requeue.Delivery
import StatusRouter.Proofs.Interleaving
import StatusRouter.Proofs.Routing.Commutation
import StatusRouter.Proofs.Routing.SharedKey
import StatusRouter.Proofs.Condition.Verdict
import StatusRouter.Proofs.Condition.MarkOrder
import StatusRouter.Proofs.Condition.Normalization
import StatusRouter.Proofs.Condition.Declaration
import StatusRouter.Proofs.Shape.Lossless
import StatusRouter.Proofs.Source.Delegation
import StatusRouter.Proofs.Source.Provenance
import StatusRouter.Proofs.Source.Sink
import StatusRouter.Proofs.Routing.Independence
import StatusRouter.Proofs.Source.Isolation
import StatusRouter.Proofs.Condition.Undeclared
import StatusRouter.Proofs.Source.Informational
import StatusRouter.Proofs.Condition.Initialization
import StatusRouter.Proofs.Requeue.Round
import StatusRouter.Proofs.Routing.Unkeyed
import StatusRouter.Proofs.Routing.Enqueue
import StatusRouter.Proofs.Routing.DirectPath
import StatusRouter.Proofs.Source.Availability
import StatusRouter.Proofs.Routing.LetterCase
import StatusRouter.Proofs.Shape.Published
