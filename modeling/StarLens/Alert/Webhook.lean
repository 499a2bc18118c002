import StarLens.Alert.Manager
import StarLens.Alert.Settings

/-! # Delivery channels

The log and webhook notifiers, up to what they report. The payload of a webhook
reaches no response and is left out here. -/

namespace StarLens.Alert

open Go

inductive Notifier
  | log
  | webhook (url format : String)
deriving DecidableEq

def Notifier.name : Notifier → String
  | log => "log"
  | webhook _ _ => "webhook"

def newWebhookNotifier [UnicodeTables] (url format : String) : Except String Notifier :=
  if url = "" then .error "alert: webhook URL is empty"
  else if format != webhookFormatGeneric && format != webhookFormatSlack then
    .error ("alert: unknown webhook format " ++ Strconv.quote format ++ " (want " ++
      Strconv.quote webhookFormatGeneric ++ " or " ++ Strconv.quote webhookFormatSlack ++ ")")
  else .ok (.webhook url format)

/-- The error texts of net/http for a URL: that of a request that could not be
built, and that of one that failed with a cause. -/
structure HTTPClient where
  requestError : (url : String) → String
  doError : (url cause : String) → String

inductive Attempt
  | failed (cause : String)
  | answered (code : Nat) (status : String)
deriving DecidableEq

def sendWebhook (client : HTTPClient) (url : String) (attempt : Attempt) : Except String Unit :=
  match URL.parse url with
  | none => .error ("alert: build webhook request: " ++ client.requestError url)
  | some _ =>
      match attempt with
      | .failed cause => .error ("alert: post webhook: " ++ client.doError url cause)
      | .answered code status =>
          if code < 200 || 299 < code then .error ("alert: webhook returned " ++ status)
          else .ok ()

def deliveryResult : Except String Unit → String
  | .ok () => "ok"
  | .error text => text

/-- The delivery loop of `Test`: every webhook takes the next attempt, and the
log always delivers. -/
def deliverTest (client : HTTPClient) :
    List Notifier → List Attempt → Option (List (String × String))
  | [], [] => some []
  | .log :: notifiers, attempts =>
      (deliverTest client notifiers attempts).map fun results =>
        (Notifier.log.name, "ok") :: results
  | .webhook url format :: notifiers, attempt :: attempts =>
      (deliverTest client notifiers attempts).map fun results =>
        ((Notifier.webhook url format).name, deliveryResult (sendWebhook client url attempt)) ::
          results
  | _, _ => none

end StarLens.Alert
