import AzureShell.Apps.Idempotence
import AzureShell.Apps.Requested
import AzureShell.Apps.Serialization
import AzureShell.Clients.AzureClients
import AzureShell.Commands.OtherSandboxes
import AzureShell.Delete.Locks
import AzureShell.Deploy.NicRequests
import AzureShell.Deploy.SandboxTraffic
import AzureShell.Deploy.TaskWaiter
import AzureShell.Details.VmDetails
import AzureShell.Lifecycle.PoolAccounts
import AzureShell.Lifecycle.StaticAddresses
import AzureShell.Naming.ResourceIds
import AzureShell.Naming.WellFormed
import AzureShell.Nsg.Clash
import AzureShell.Nsg.ExactlyOnce
import AzureShell.Nsg.PortLanguage
import AzureShell.Nsg.PriorityLoop
import AzureShell.Routes.CleanedUp
import AzureShell.Routes.Outcome
import AzureShell.Sandbox.PrepareResults
import AzureShell.Sandbox.PrivateSubnets
import AzureShell.Sandbox.Separation
import AzureShell.Sandbox.SubnetRecovery
import AzureShell.Storage.CachedServices
import AzureShell.Storage.CopiedResult
import AzureShell.Storage.CopyStatus
import AzureShell.Storage.KeyPair
