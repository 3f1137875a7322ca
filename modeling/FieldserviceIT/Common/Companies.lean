import FieldserviceIT.Common.Users

/-!
The company in which a user works on records: the own one, or, for a super
administrator without one, the one that is selected.
-/

namespace FieldserviceIT.Common

/-- `none` is a refusal, `some none` is every company. -/
def companyScope (user : CurrentUser) : Option (Option String) :=
  if truthy user.companyId then some user.companyId
  else if user.role = .superAdmin then
    some (if truthy user.effectiveCompanyId then user.effectiveCompanyId else none)
  else none

/-- The company a new record is written to; `none` is a refusal. -/
def writeCompany (user : CurrentUser) (requestedCompanyId : Option String) : Option String :=
  if truthy user.companyId then user.companyId
  else if user.role = .superAdmin then
    (orElse user.effectiveCompanyId requestedCompanyId).filter (· ≠ "")
  else none

def inScope (scope : Option String) (companyId : String) : Bool :=
  scope.all (· = companyId)

end FieldserviceIT.Common
