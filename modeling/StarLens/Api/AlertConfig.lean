import StarLens.Alert.OverrideFile
import StarLens.Alert.Manager

/-! # Alert responses

The bodies the alert endpoints answer with. -/

namespace StarLens.Api

open Alert Go

structure ConfigView where
  enabled : Bool
  pollInterval : String
  cooldown : String
  webhookConfigured : Bool
  webhookHint : String
  webhookFormat : String
  errorRowsRatio : Float64
  errorRowsMinTotal : Int64
  maxOffsetLag : Int64
  maxJournalLag : Int64
deriving DecidableEq

structure AlertConfigView where
  editable : Bool
  overridden : List String
  config : ConfigView
deriving DecidableEq

def view (editable : Bool) (effective : Config) (overridden : List String) :
    AlertConfigView where
  editable
  overridden
  config := {
    enabled := effective.enabled
    pollInterval := effective.pollInterval.string
    cooldown := effective.cooldown.string
    webhookConfigured := effective.webhookURL != ""
    webhookHint := maskWebhookURL effective.webhookURL
    webhookFormat := effective.webhookFormat
    errorRowsRatio := effective.errorRowsRatio
    errorRowsMinTotal := effective.errorRowsMinTotal
    maxOffsetLag := effective.maxOffsetLag
    maxJournalLag := effective.maxJournalLag }

/-- The `reset` flag of a patch: a later member of the name wins, and `null`
leaves the flag alone. -/
def bindReset (members : List (String × Json)) : Option Bool :=
  members.foldlM (fun reset member =>
    if Field.foldName member.1 = Field.foldName "reset" then
      match member.2 with
      | .null => some reset
      | .bool value => some value
      | _ => none
    else some reset) false

/-- Bind the object in a body to `alertConfigPatch`; `none` is a type error. -/
def bindPatch (members : List (String × Json)) : Option (Override × Bool) :=
  match Override.unmarshal members, bindReset members with
  | .ok override, some reset => some (override, reset)
  | _, _ => none

inductive Body
  | config (view : AlertConfigView)
  | alerts (alerts : List Alert)
  | test (alert : Alert) (results : List (String × String))
  | error (code message detail : String)
deriving DecidableEq

structure Response where
  status : Nat
  body : Body
deriving DecidableEq

def respondError (status : Nat) (code message detail : String) : Response where
  status
  body := .error code message detail

def forbidden : Response :=
  respondError 403 "config_ui_disabled"
    ("Alert configuration via the API is disabled (ALERT_CONFIG_UI=false); " ++
      "edit the environment instead.") ""

def invalidRequest (cause : String) : Response :=
  respondError 400 "invalid_request"
    "Request body must be a JSON alert configuration patch." cause

def updateFailed : UpdateError → Response
  | .invalid text => respondError 400 "invalid_config" "The configuration is invalid." text
  | .persist text =>
      respondError 500 "config_persist_failed" "Could not persist the configuration." text

def applyFailed (cause : String) : Response :=
  respondError 500 "config_apply_failed"
    "The configuration was saved but could not be applied." cause

end StarLens.Api
