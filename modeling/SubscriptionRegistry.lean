import SubscriptionRegistry.Store
import SubscriptionRegistry.Operation
import SubscriptionRegistry.Journal
import SubscriptionRegistry.BackingStore.Memory
import SubscriptionRegistry.BackingStore.Gate
import SubscriptionRegistry.BackingStore.Overlay
import SubscriptionRegistry.BackingStore.File
import SubscriptionRegistry.BackingStore.Faithful
import SubscriptionRegistry.Proofs.OwnedOnce
import SubscriptionRegistry.Proofs.WriteThrough
import SubscriptionRegistry.Proofs.Failure
import SubscriptionRegistry.Proofs.Update
import SubscriptionRegistry.Proofs.Codec.Items
import SubscriptionRegistry.Proofs.Codec.Rows
import SubscriptionRegistry.Proofs.Codec.Frame
import SubscriptionRegistry.Proofs.Codec.Damage
import SubscriptionRegistry.Proofs.Disk
import SubscriptionRegistry.Proofs.File.Writing
import SubscriptionRegistry.Proofs.File.Refinement
import SubscriptionRegistry.Proofs.Unnoticed
import SubscriptionRegistry.Proofs.Attempts
import SubscriptionRegistry.Proofs.File.Keys
import SubscriptionRegistry.Proofs.Dormancy
import SubscriptionRegistry.Proofs.Findable
import SubscriptionRegistry.Proofs.Restart
import SubscriptionRegistry.Proofs.File.Restart
import SubscriptionRegistry.Proofs.Calls
import SubscriptionRegistry.Proofs.Blame
import SubscriptionRegistry.Proofs.Completion
import SubscriptionRegistry.Proofs.Repair
import SubscriptionRegistry.Proofs.File.Sharing
import SubscriptionRegistry.Proofs.Refill
import SubscriptionRegistry.Proofs.Naming
import SubscriptionRegistry.Proofs.Revival
import SubscriptionRegistry.Proofs.Orphans
import SubscriptionRegistry.Proofs.File.Loss
import SubscriptionRegistry.Proofs.Codec.Verdict
import SubscriptionRegistry.Proofs.Undoing
import SubscriptionRegistry.Proofs.Rebinding
import SubscriptionRegistry.Proofs.Twins
import SubscriptionRegistry.Proofs.Effects
import SubscriptionRegistry.Proofs.Commuting
import SubscriptionRegistry.Proofs.Batches
import SubscriptionRegistry.Proofs.Reloading
import SubscriptionRegistry.Proofs.Loading
import SubscriptionRegistry.Proofs.Json.Tokens
import SubscriptionRegistry.Proofs.Json.Values
import SubscriptionRegistry.Proofs.Json.Objects
import SubscriptionRegistry.Proofs.Json.Metadata
import SubscriptionRegistry.Proofs.Registrations
import SubscriptionRegistry.Proofs.TwoStates
