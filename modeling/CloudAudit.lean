import CloudAudit.Main
import CloudAudit.Proofs.Check.Attachment
import CloudAudit.Proofs.Check.Insertion
import CloudAudit.Proofs.Provider.Address
import CloudAudit.Proofs.Provider.Pages
import CloudAudit.Proofs.Review.Document
import CloudAudit.Proofs.Run.Completion
import CloudAudit.Proofs.Run.Conditional
import CloudAudit.Proofs.Run.Locality
import CloudAudit.Proofs.Service.Addresses
import CloudAudit.Proofs.Service.Histories
import CloudAudit.Proofs.Service.Isolation
import CloudAudit.Proofs.Service.Loading
import CloudAudit.Proofs.Service.Pairs
import CloudAudit.Proofs.Service.Rerun
import CloudAudit.Proofs.Service.Responses
import CloudAudit.Proofs.Service.Threads
import CloudAudit.Proofs.Service.Withdrawal
import CloudAudit.Proofs.Settings.Environment
import CloudAudit.Proofs.Store.Profiles
import CloudAudit.Proofs.Store.Registration
import CloudAudit.Service.Api
import CloudAudit.Source.Demo
import CloudAudit.Proofs.Text.Numeral
import CloudAudit.Proofs.Network.Ports
import CloudAudit.Proofs.Network.Fingerprint
import CloudAudit.Proofs.Check.Duplicates
import CloudAudit.Proofs.Network.Cidr
import CloudAudit.Proofs.Check.Tags
import CloudAudit.Proofs.Check.Recency
import CloudAudit.Proofs.Check.Plan
import CloudAudit.Proofs.Run.AccessList
import CloudAudit.Proofs.Service.Folder
