import StarLens.Api.Handlers
import StarLens.Frontend.ClusterStatusPill

/-! # Errors in the browser

An error answer crosses the wire as a JSON text. The frontend normalizes it and
words a hint of its own for what the operator can do. -/

namespace StarLens.Frontend

open Api Foundation Go

structure AxiosResponse where
  status : Nat
  /-- The body; none for a text that is no JSON. -/
  data : Option JsonValue

structure AxiosError where
  message : String
  code : Option String
  response : Option AxiosResponse

structure ApiErrorBody where
  code : Option String
  message : Option String
  detail : Option String

structure ApiError where
  message : String
  code : String
  detail : Option String
  status : Option Nat
deriving DecidableEq

def ApiError.isClusterUnavailable (error : ApiError) : Bool :=
  error.code = "starrocks_unavailable" || error.code = "starrocks_unreachable"

def truthy : JsonValue → Bool
  | .null => false
  | .bool value => value
  | .number value => value ≠ 0
  | .decimal mantissa exponent => Float64.round (mantissa * 10 ^ exponent) ≠ 0
  | .string text => text ≠ ""
  | .array _ | .object _ => true

/-- `error.response?.data?.error`, if it is there. Its members are strings where
they are there. -/
def AxiosError.body (error : AxiosError) : Option ApiErrorBody := do
  let response ← error.response
  let data ← response.data
  let body ← data.member "error"
  guard (truthy body)
  return {
    code := (body.member "code").bind JsonValue.string?
    message := (body.member "message").bind JsonValue.string?
    detail := (body.member "detail").bind JsonValue.string? }

def toApiError (error : AxiosError) : ApiError :=
  match error.body with
  | some body =>
      { message := body.message.getD error.message
        code := body.code.getD "api_error"
        detail := body.detail
        status := error.response.map AxiosResponse.status }
  | none =>
      if error.code = some "ECONNABORTED" ∨ error.code = some "ETIMEDOUT" then
        { message := "The StarLens API did not respond in time."
          code := "timeout"
          detail := some error.message
          status := none }
      else
        match error.response with
        | none =>
            { message := "Cannot reach the StarLens API."
              code := "network_error"
              detail := some error.message
              status := none }
        | some response =>
            { message := error.message
              code := "api_error"
              detail := none
              status := some response.status }

/-! ## The failure card -/

inductive Thrown
  | api (error : ApiError)
  | error (message : String)
  | other

/-- The texts of a failure card. Those of the frontend's own are keys of the
translations. -/
structure Card where
  message : String
  detail : Option String := none
  hint : Option String := none

def hintFor (code : String) : Option String :=
  if code = "starrocks_unavailable" ∨ code = "starrocks_unreachable" then
    some "errors.hints.starrocksUnavailable"
  else if code = "network_error" then some "errors.hints.networkError"
  else if code = "timeout" then some "errors.hints.timeout"
  else none

def describe : Thrown → Card
  | .api error =>
      { message := error.message, detail := error.detail, hint := hintFor error.code }
  | .error message => { message }
  | .other => { message := "errors.unexpected" }

def unreachable : Thrown → Bool
  | .api error => error.isClusterUnavailable
  | _ => false

/-! ## From the handler to the card -/

def answered (message : String) (code : Option String) (status : Nat) (body : JsonValue) :
    AxiosError where
  message
  code
  response := some { status, data := JsonText.read (JsonText.write body) }

theorem toApiError_answered (axiosMessage : String) (axiosCode : Option String) (status : Nat)
    (code message detail : String) :
    toApiError (answered axiosMessage axiosCode status (errorBody code message detail)) =
      { message, code, detail := if detail = "" then none else some detail
        status := some status } := by
  have body : (answered axiosMessage axiosCode status (errorBody code message detail)).body =
      some {
        code := some code
        message := some message
        detail := if detail = "" then none else some detail } := by
    simp only [AxiosError.body, answered, JsonText.read_write]
    by_cases empty : detail = ""
    · simp only [errorBody, if_pos empty]
      rfl
    · simp only [errorBody, if_neg empty]
      rfl
  rw [toApiError, body]
  rfl

def cluster : Fault → Bool
  | .unreachable | .service .unavailable => true
  | _ => false

end StarLens.Frontend
