import TransactionKit.Config
import TransactionKit.Key
import TransactionKit.Proofs.Calendar.ReadBack
import TransactionKit.Proofs.Connection.Durability
import TransactionKit.Proofs.Key.Identity
import TransactionKit.Proofs.Lock.Eviction
import TransactionKit.Proofs.Lock.MutualExclusion
import TransactionKit.Proofs.Lock.Persistence
import TransactionKit.Proofs.Lock.Promptness
import TransactionKit.Proofs.Lock.Tables
import TransactionKit.Proofs.Routine.Assurance
import TransactionKit.Proofs.Scenario.Table
import TransactionKit.Proofs.Scope.Admission
import TransactionKit.Proofs.Scope.Belonging
import TransactionKit.Proofs.Scope.Custody
import TransactionKit.Proofs.Scope.Entrance
import TransactionKit.Proofs.Scope.Leakage
import TransactionKit.Proofs.Scope.LifeCycle
import TransactionKit.Proofs.Template.Acceptance
import TransactionKit.Proofs.Template.Assembly
import TransactionKit.Proofs.Template.CanonicalForm
import TransactionKit.Proofs.Template.Dependence
import TransactionKit.Proofs.Template.Descent
import TransactionKit.Proofs.Template.Inference
import TransactionKit.Proofs.Template.IntegerText
import TransactionKit.Proofs.Template.Leaves
import TransactionKit.Proofs.Template.Lossless
import TransactionKit.Proofs.Template.Rereading
import TransactionKit.Proofs.Template.Rewriting
import TransactionKit.Proofs.Template.Skeleton
import TransactionKit.Proofs.Template.Strictness
import TransactionKit.Proofs.Template.TextLiteral
import TransactionKit.Proofs.Text.Reading
import TransactionKit.Proofs.Transaction.Acquisition
import TransactionKit.Proofs.Transaction.AllOrNothing
import TransactionKit.Proofs.Transaction.GivingBack
import TransactionKit.Proofs.Transaction.Holding
import TransactionKit.Proofs.Transaction.Ledger
import TransactionKit.Proofs.Transaction.Promptness
import TransactionKit.Proofs.Transaction.Representation
import TransactionKit.Proofs.Transaction.RequestOrder
import TransactionKit.Proofs.Transaction.Standing
import TransactionKit.Proofs.Transaction.Validity
import TransactionKit.Proofs.Transaction.Waiting
import TransactionKit.Proofs.Transaction.Withdrawal
import TransactionKit.Scenario.Performance
import TransactionKit.Scenario.SessionScript
import TransactionKit.Template
