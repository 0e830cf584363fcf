import VendorDispatch.Router.History
import VendorDispatch.Switchboard.Interleaving
import VendorDispatch.Proofs.Fields
import VendorDispatch.Proofs.Callback
import VendorDispatch.Proofs.Service
import VendorDispatch.Proofs.Resolution
import VendorDispatch.Proofs.TagTable
import VendorDispatch.Proofs.Switching
import VendorDispatch.Proofs.Registry
import VendorDispatch.Proofs.Operation
import VendorDispatch.Proofs.TagProtocol
import VendorDispatch.Proofs.TagOwner
import VendorDispatch.Proofs.ServiceCalls
import VendorDispatch.Proofs.Owners
import VendorDispatch.Proofs.LookUp
import VendorDispatch.Proofs.Atomicity
import VendorDispatch.Proofs.Ledger
import VendorDispatch.Proofs.Caching
import VendorDispatch.Proofs.CurrentTable
import VendorDispatch.Proofs.ActiveVendors
import VendorDispatch.Proofs.StubTable
import VendorDispatch.Proofs.PrivateData
import VendorDispatch.Proofs.Confinement
import VendorDispatch.Proofs.Inquiries
import VendorDispatch.Proofs.SwitchEffect
import VendorDispatch.Proofs.InStep
import VendorDispatch.Proofs.InStepService
import VendorDispatch.Proofs.Lifecycle
import VendorDispatch.Proofs.FreshStart
import VendorDispatch.Proofs.Separation
import VendorDispatch.Proofs.Offers
import VendorDispatch.Proofs.ByteOrder
import VendorDispatch.Proofs.TagAllocation
import VendorDispatch.Proofs.Latch
import VendorDispatch.Proofs.Routing
import VendorDispatch.Proofs.SlotAssignment
import VendorDispatch.Proofs.StubMemory
import VendorDispatch.Proofs.StubAddresses
import VendorDispatch.Proofs.EntryPoints
import VendorDispatch.Proofs.CurrentOwner
import VendorDispatch.Proofs.StubX86
import VendorDispatch.Proofs.StubArm
import VendorDispatch.Proofs.StubEncoding
import VendorDispatch.Proofs.Learning
import VendorDispatch.Proofs.Broadcast
import VendorDispatch.Proofs.Length
import VendorDispatch.Proofs.Idempotence
import VendorDispatch.Proofs.Spelling
import VendorDispatch.Proofs.FixUp
import VendorDispatch.Proofs.Handles
import VendorDispatch.Proofs.Exports
import VendorDispatch.Proofs.Calm
import VendorDispatch.Proofs.Checks
