import OpenChoreo.Api.Store

/-!
# The request bodies of the component endpoints

`models/request.go`: the bodies of the promote and binding-update requests, the `Sanitize` methods
that trim request fields, and `UpdateBindingRequest.Validate`, the only check the handlers make on a
body. Trimming is Go's `strings.TrimSpace`, which drops the leading and trailing characters that
`unicode.IsSpace` reports.
-/

namespace OpenChoreo
namespace Api

/-- `unicode.IsSpace`: tab, newline, vertical tab, form feed, carriage return and blank, `U+0085`,
`U+00A0`, and the other characters of Unicode's White_Space property. -/
def isGoSpace (c : Char) : Bool :=
  c.val == 0x09 || c.val == 0x0a || c.val == 0x0b || c.val == 0x0c || c.val == 0x0d ||
    c.val == 0x20 || c.val == 0x85 || c.val == 0xa0 || c.val == 0x1680 ||
    (0x2000 ≤ c.val && c.val ≤ 0x200a) || c.val == 0x2028 || c.val == 0x2029 || c.val == 0x202f ||
    c.val == 0x205f || c.val == 0x3000

/-- `strings.TrimSpace`. -/
def trimSpace (s : String) : String :=
  ⟨((s.data.dropWhile isGoSpace).reverse.dropWhile isGoSpace).reverse⟩

/-- `models.PromoteComponentRequest`. -/
structure PromoteComponentRequest where
  sourceEnvironment : String
  targetEnvironment : String
  deriving DecidableEq, Repr

/-- `PromoteComponentRequest.Sanitize`. -/
def PromoteComponentRequest.sanitize (req : PromoteComponentRequest) : PromoteComponentRequest :=
  { sourceEnvironment := trimSpace req.sourceEnvironment
    targetEnvironment := trimSpace req.targetEnvironment }

/-- `CreateComponentRequest.Sanitize`; the build configuration is left as it is. -/
def CreateComponentRequest.sanitize (req : CreateComponentRequest) : CreateComponentRequest :=
  { req with
    name := trimSpace req.name, displayName := trimSpace req.displayName
    description := trimSpace req.description, type := trimSpace req.type }

@[simp] theorem CreateComponentRequest.sanitize_buildConfig (req : CreateComponentRequest) :
    req.sanitize.buildConfig = req.buildConfig := rfl

/-- `models.UpdateBindingRequest`. -/
structure UpdateBindingRequest where
  releaseState : String
  deriving DecidableEq, Repr

/-- `UpdateBindingRequest.Validate`. -/
def UpdateBindingRequest.validate (req : UpdateBindingRequest) : Except GoError Unit :=
  if req.releaseState == "Active" || req.releaseState == "Suspend" || req.releaseState == "Undeploy"
  then .ok ()
  else if req.releaseState == "" then .error (.plain "releaseState is required")
  else .error (.plain "releaseState must be one of: Active, Suspend, Undeploy")

/-- The release states `Validate` accepts: the `BindingReleaseState` constants. -/
def releaseStates : List String := ["Active", "Suspend", "Undeploy"]

theorem UpdateBindingRequest.validate_eq_ok {req : UpdateBindingRequest} :
    req.validate = .ok () ↔ req.releaseState ∈ releaseStates := by
  unfold validate releaseStates
  split_ifs <;> simp_all [or_assoc]

end Api
end OpenChoreo
