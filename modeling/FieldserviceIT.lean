import FieldserviceIT.Common.Credential
import FieldserviceIT.Tickets.Masking
import FieldserviceIT.Tickets.LifecycleFields
import FieldserviceIT.Auth.Lockout
import FieldserviceIT.Auth.RecoveryCodes
import FieldserviceIT.Auth.Reuse
import FieldserviceIT.Auth.PasswordChange
import FieldserviceIT.Admin.ApprovalRuns
import FieldserviceIT.Admin.AccessRuns
import FieldserviceIT.Admin.AccessReviews
import FieldserviceIT.Admin.Impersonation
import FieldserviceIT.Access.PermissionScopes
import FieldserviceIT.Admin.Escalation
import FieldserviceIT.Access.FeatureEntitlements
import FieldserviceIT.Tokens.Purposes
import FieldserviceIT.Ai.AgentApprovals
import FieldserviceIT.Catalog.RequestRuns
import FieldserviceIT.Cmdb.AlertPolls
import FieldserviceIT.Cmdb.Enrollments
import FieldserviceIT.Cmdb.DeviceActionRuns
import FieldserviceIT.Cmdb.Retention
import FieldserviceIT.Auth.OneTimeSecrets
import FieldserviceIT.Admin.InvitationRuns
import FieldserviceIT.Notifications.QueueSafety
import FieldserviceIT.Notifications.Suppressions
import FieldserviceIT.Notifications.EscalationsOnTime
import FieldserviceIT.QuotesInvoices.QuoteTotals
import FieldserviceIT.QuotesInvoices.Conversions
import FieldserviceIT.Inventory.StockRuns
import FieldserviceIT.Intake.InboundMail
import FieldserviceIT.Billing.Entitlements
import FieldserviceIT.Billing.Metering
import FieldserviceIT.Rmm.SyncRuns
import FieldserviceIT.Admin.ScimRoles
import FieldserviceIT.Admin.GlobalRoles
import FieldserviceIT.Access.AccessTools
import FieldserviceIT.Access.BundleRoundTrip
import FieldserviceIT.Settings.Writers
import FieldserviceIT.Knowledge.Noninterference
import FieldserviceIT.FieldService.Evidence
import FieldserviceIT.Admin.Certifications
import FieldserviceIT.Admin.AbandonedTenants
import FieldserviceIT.EndpointOperations.PatchConsistency
import FieldserviceIT.PlatformSecurity.BackupRoundTrip
import FieldserviceIT.PlatformSecurity.BackupHistories
import FieldserviceIT.Maintenance.DueDates
import FieldserviceIT.Tickets.ApprovalRuns
import FieldserviceIT.Auth.SessionLimitRuns
import FieldserviceIT.Admin.ScimGroupPatches
import FieldserviceIT.Access.AddressRules
import FieldserviceIT.Access.OutboundFilters
import FieldserviceIT.Admin.WholeRoleEdits
import FieldserviceIT.Admin.CompanyMoves
import FieldserviceIT.Tickets.ExportRoundTrip
import FieldserviceIT.Network.CsvRoundTrip
import FieldserviceIT.Cmdb.ConfigDiff
import FieldserviceIT.Cmdb.SubnetHosts
import FieldserviceIT.Security.Encryption
import FieldserviceIT.Database.MigrationFiles
import FieldserviceIT.Database.Migrations
import FieldserviceIT.Lib.BitGroups
import FieldserviceIT.Auth.TotpSecrets
import FieldserviceIT.Deployments.EventHistories
import FieldserviceIT.Lib.CodeUnits
import FieldserviceIT.Lib.JsonText
import FieldserviceIT.Lib.RelativeUrls
import FieldserviceIT.Auth.SsoAccounts
import FieldserviceIT.Cmdb.MonitoringSettings
import FieldserviceIT.Cmdb.SettingsUpdates
import FieldserviceIT.Reporting.TicketFigures
import FieldserviceIT.Topology.TopologyMap
