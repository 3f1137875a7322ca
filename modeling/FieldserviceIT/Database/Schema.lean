import FieldserviceIT.Sql.Condition

/-!
The tables the ticket, asset and timeline queries read, with the columns the
start-up DDL and the migrations give them.
-/

namespace FieldserviceIT.Database

open Sql

def ticketColumns : List String :=
  ["id", "ticketNumber", "title", "description", "contactName", "contactEmail", "contactPhone",
    "category", "subcategory", "location", "latitude", "longitude", "status", "priority", "type",
    "companyId", "createdById", "assignedToId", "assetId", "slaId", "contractId", "trackingToken",
    "onHoldReason", "resolution", "resolvedAt", "resolvedById", "createdAt", "updatedAt",
    "deletedAt"]

def ticketTimelineColumns : List String :=
  ["id", "ticketId", "action", "actorId", "oldValue", "newValue", "comment", "isInternal",
    "createdAt"]

def userColumns : List String :=
  ["id", "email", "passwordHash", "firstName", "lastName", "phone", "jobTitle", "department",
    "location", "preferredContactMethod", "timezone", "avatarUrl", "featureOverrides", "role",
    "userType", "companyId", "isActive", "emailVerified", "lastLoginAt", "resetToken",
    "resetTokenExpiresAt", "emailVerificationToken", "emailVerificationExpiresAt", "createdAt",
    "updatedAt", "deletedAt", "mfaEnabled", "mfaSecretEncrypted", "mfaPendingSecretEncrypted",
    "mfaRecoveryCodes", "mfaEnabledAt", "authVersion", "isBreakGlass", "breakGlassReason",
    "scimExternalId", "scimManaged"]

def assetColumns : List String :=
  ["id", "name", "assetType", "serialNumber", "manufacturer", "model", "location", "ipAddress",
    "macAddress", "os", "osVersion", "cpu", "ram", "storage", "purchaseDate",
    "warrantyExpiresAt", "status", "deviceCategory", "ownership", "assignedUser",
    "enrollmentStatus", "managementMode", "mdmProvider", "mdmDeviceId", "mdmDeviceTokenHash",
    "lastCheckInAt", "complianceStatus", "complianceReasons", "encryptionStatus",
    "firewallEnabled", "antivirusStatus", "passcodeCompliant", "jailbreakDetected",
    "lostModeEnabled", "batteryLevel", "imei", "meid", "phoneNumber", "carrier", "appInventory",
    "policyProfile", "notes", "companyId", "createdAt", "updatedAt", "deletedAt"]

def columns (table : String) : List String :=
  if table = "Ticket" then ticketColumns
  else if table = "User" then userColumns
  else if table = "Asset" then assetColumns
  else if table = "TicketTimeline" then ticketTimelineColumns
  else []

/-- The database behind the service, for any collation and any rendering of
bound arrays and objects. -/
def server (comparison : Comparison) (objectLiteral : Js → Option Scalar) : Server where
  columns := columns
  comparison := comparison
  objectLiteral := objectLiteral

@[simp] theorem server_columns (comparison : Comparison) (objectLiteral : Js → Option Scalar) :
    (server comparison objectLiteral).columns = columns := rfl

@[simp] theorem server_comparison (comparison : Comparison) (objectLiteral : Js → Option Scalar) :
    (server comparison objectLiteral).comparison = comparison := rfl

/-- `/^[a-zA-Z_][a-zA-Z0-9_]*$/` -/
def isSqlIdentifier (identifier : String) : Bool :=
  match identifier.toList with
  | [] => false
  | c :: cs => (c.isAlpha || c == '_') && cs.all fun d => d.isAlphanum || d == '_'

/-- The keys the filter compilers read as something other than a column. -/
def reservedKeys : List String := ["OR", "AND", "createdBy", "ticket"]

def wellNamed (column : String) : Bool :=
  isSqlIdentifier column && !reservedKeys.contains column

theorem columns_wellNamed {table column : String} (h : column ∈ columns table) :
    wellNamed column = true := by
  have hall : ∀ t ∈ [ticketColumns, userColumns, assetColumns, ticketTimelineColumns],
      ∀ c ∈ t, wellNamed c = true := by
    decide +kernel
  unfold columns at h
  split at h
  · exact hall ticketColumns (by simp) column h
  · split at h
    · exact hall userColumns (by simp) column h
    · split at h
      · exact hall assetColumns (by simp) column h
      · split at h
        · exact hall ticketTimelineColumns (by simp) column h
        · simp at h

end FieldserviceIT.Database
