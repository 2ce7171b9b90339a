import TokenAcquisition.Main
import TokenAcquisition.Program.Alone
import TokenAcquisition.Proofs.Account.HomeIds
import TokenAcquisition.Proofs.Authorization.Endpoints
import TokenAcquisition.Proofs.Authorization.Redirects
import TokenAcquisition.Proofs.Cloud.CacheHost
import TokenAcquisition.Proofs.CommandLine.Discretion
import TokenAcquisition.Proofs.CommandLine.Ending
import TokenAcquisition.Proofs.CommandLine.Grammar
import TokenAcquisition.Proofs.Credential.Applications
import TokenAcquisition.Proofs.Credential.Concurrent
import TokenAcquisition.Proofs.Credential.Expiry
import TokenAcquisition.Proofs.Credential.History
import TokenAcquisition.Proofs.Credential.Listing
import TokenAcquisition.Proofs.Dispatch.Attribution
import TokenAcquisition.Proofs.Dispatch.Delivery
import TokenAcquisition.Proofs.Dispatch.Invalidation
import TokenAcquisition.Proofs.Dispatch.Outcomes
import TokenAcquisition.Proofs.Dispatch.Redemption
import TokenAcquisition.Proofs.Dispatch.Release
import TokenAcquisition.Proofs.Dispatch.Renewal
import TokenAcquisition.Proofs.Dispatch.Reports
import TokenAcquisition.Proofs.Dispatch.Retargeting
import TokenAcquisition.Proofs.Dispatch.Schedule
import TokenAcquisition.Proofs.Dispatch.Serialization
import TokenAcquisition.Proofs.Dispatch.Serving
import TokenAcquisition.Proofs.Dispatch.Timeout
import TokenAcquisition.Proofs.Flow.Course
import TokenAcquisition.Proofs.Program.Scopes
import TokenAcquisition.Proofs.Token.Rejections
