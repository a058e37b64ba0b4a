import FleetLlmd.Inference.Handler

/-!
# Authentication and authorization

`AuthorizationMiddleware` decides on the identity in the request's context, the method and
`URL.Path` whether the request goes on to the routes. Who verified the identity is left open.
-/

namespace FleetLlmd.Auth
open Go

abbrev Identity := Inference.Identity

structure Claims extends Inference.Claims where
  tenant : String := ""

def roleAdmin : String := "admin"
def roleOperator : String := "operator"
def roleViewer : String := "viewer"
def roleTenant : String := Inference.roleTenant

def identityFromClaims (claims : Claims) : Identity where
  subject := claims.subject
  tenant := if claims.tenant = "" ∧ claims.role = roleTenant then claims.subject else claims.tenant
  roles := [claims.role]

structure Context where
  identity : Option Identity := none
  claims : Option Claims := none

section Authorization

def checkPermission (role method : String) : Bool :=
  if role = roleAdmin then true
  else if role = roleOperator then ["GET", "POST", "PUT", "PATCH"].contains method
  else if role = roleViewer ∨ role = roleTenant then method == "GET"
  else false

def primaryRole (roles : List String) : String :=
  ([roleAdmin, roleOperator, roleViewer, roleTenant].find? (roles.contains ·)).getD ""

def tenantsPrefix : Bytes := utf8 "/api/v1/tenants/"
def usageSuffix : Bytes := utf8 "/usage"

def tenantRequestAllowed (subject method : String) (path : Bytes) : Bool :=
  if method ≠ "GET" then false
  else if !tenantsPrefix.isPrefixOf path || !usageSuffix.isSuffixOf path then false
  else
    let rest := (path.dropPrefix? tenantsPrefix).getD path
    let tenantID := (rest.dropSuffix? usageSuffix).getD rest
    tenantID != [] && tenantID == utf8 subject

def inferenceRequest (method : String) (path : Bytes) : Bool :=
  method == "POST" && (path == utf8 "/v1/chat/completions" || path == utf8 "/v1/completions")

def authorizationMiddleware (exempt : List Bytes) (ctx : Context) (method : String)
    (path : Bytes) : Except String Unit :=
  if exempt.contains path then .ok ()
  else match ctx.identity.or (ctx.claims.map identityFromClaims) with
    | none => .ok ()
    | some identity =>
      let role := primaryRole identity.roles
      if !checkPermission role method && (role != roleTenant || !inferenceRequest method path) then
        .error "role is not allowed to perform this action"
      else if role == roleTenant && !inferenceRequest method path &&
          !tenantRequestAllowed identity.tenant method path then
        .error "tenant is not allowed to access this resource"
      else .ok ()

structure TenantOnly (identity : Identity) : Prop where
  tenant : roleTenant ∈ identity.roles
  admin : roleAdmin ∉ identity.roles
  operator : roleOperator ∉ identity.roles
  viewer : roleViewer ∉ identity.roles

theorem primaryRole_of_tenantOnly {identity : Identity} (h : TenantOnly identity) :
    primaryRole identity.roles = roleTenant := by
  simp [primaryRole, h.tenant, h.admin, h.operator, h.viewer]

theorem passed_of_tenantOnly {exempt : List Bytes} {ctx : Context} {identity : Identity}
    {method : String} {path : Bytes} (hidentity : ctx.identity = some identity)
    (htenant : TenantOnly identity) (hexempt : path ∉ exempt)
    (h : authorizationMiddleware exempt ctx method path = .ok ()) :
    inferenceRequest method path = true ∨
      tenantRequestAllowed identity.tenant method path = true := by
  simp only [authorizationMiddleware, List.contains_iff_mem, hexempt, if_false, hidentity,
    Option.some_or, primaryRole_of_tenantOnly htenant] at h
  split_ifs at h with hmethod hscope
  simpa [or_iff_not_imp_left] using hscope

theorem tenantRequestAllowed_path {subject method : String} {path : Bytes}
    (h : tenantRequestAllowed subject method path = true) :
    method = "GET" ∧ tenantsPrefix <+: path := by
  rw [tenantRequestAllowed] at h
  split_ifs at h with hmethod hpath
  simp only [Bool.or_eq_true, Bool.not_eq_true', not_or, Bool.not_eq_false,
    List.isPrefixOf_iff_prefix] at hpath
  exact ⟨not_not.mp hmethod, hpath.1⟩

theorem tenantRequestAllowed_id {subject method : String} {id : Bytes}
    (h : tenantRequestAllowed subject method (tenantsPrefix ++ (id ++ usageSuffix)) = true) :
    id = utf8 subject ∧ id ≠ [] := by
  have hrest : (tenantsPrefix ++ (id ++ usageSuffix)).dropPrefix? tenantsPrefix =
      some (id ++ usageSuffix) :=
    List.dropPrefix?_append_of_beq _ (beq_self_eq_true _)
  have hid : (id ++ usageSuffix).dropSuffix? usageSuffix = some id :=
    List.dropSuffix?_eq_some_iff.mpr ⟨usageSuffix, rfl, beq_self_eq_true _⟩
  rw [tenantRequestAllowed] at h
  split_ifs at h
  simp only [hrest, Option.getD_some, hid, Bool.and_eq_true, bne_iff_ne, beq_iff_eq] at h
  exact ⟨h.2, h.1⟩

end Authorization
end FleetLlmd.Auth
