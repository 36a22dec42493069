import OidcExchange.Data.Text

/-!
# The text of the metrics

What `metrics` writes: for each metric a line of help, a line with its type, and one line
for each sample.  The printing of a floating-point number is a parameter.
-/

namespace OidcExchange.Http

/-- `append_metric` -/
def appendMetric (output name help metricType : String) (value : Nat) : String :=
  output ++ ("# HELP " ++ name ++ " " ++ help ++ "\n") ++
    ("# TYPE " ++ name ++ " " ++ metricType ++ "\n") ++
    (name ++ " " ++ toString value ++ "\n")

/-- `duration_snapshot`: the buckets, the count and the sum in microseconds. -/
structure Durations where
  buckets : List Nat
  count : Nat
  sumMicros : Nat

def bucketLabels : List String :=
  ["0.01", "0.025", "0.05", "0.1", "0.25", "0.5", "1", "5"]

def durationName : String := "github_oidc_exchange_duration_seconds"

/-- One bucket line. -/
def bucketLine (bucket : String × Nat) : String :=
  durationName ++ "_bucket\x7ble=\"" ++ bucket.1 ++ "\"\x7d " ++ toString bucket.2 ++ "\n"

/-- `append_duration_histogram`; `seconds` prints a number of microseconds in seconds with
six decimals. -/
def appendDurationHistogram (seconds : Nat → String) (output : String)
    (durations : Durations) : String :=
  (bucketLabels.zip durations.buckets).foldl (fun output bucket => output ++ bucketLine bucket)
      (output ++ ("# HELP " ++ durationName ++
          " End-to-end GitHub OIDC exchange latency in seconds.\n") ++
        ("# TYPE " ++ durationName ++ " histogram\n")) ++
    (durationName ++ "_bucket\x7ble=\"+Inf\"\x7d " ++ toString durations.count ++ "\n") ++
    (durationName ++ "_sum " ++ seconds durations.sumMicros ++ "\n") ++
    (durationName ++ "_count " ++ toString durations.count ++ "\n")

def providerReadyName : String := "github_oidc_exchange_generic_oidc_provider_ready"

/-- The line of one provider. -/
def providerLine (provider : String × Bool) : String :=
  providerReadyName ++ "\x7bissuer_hash=\"" ++ provider.1 ++ "\"\x7d " ++
    toString provider.2.toNat ++ "\n"

/-- The readiness of the providers, the end of the generic OIDC metrics. -/
def appendProviderReadiness (output : String) (readiness : List (String × Bool)) : String :=
  readiness.foldl (fun output provider => output ++ providerLine provider)
    (output ++ ("# HELP " ++ providerReadyName ++
        " Whether one configured provider has a usable signing-key set.\n") ++
      ("# TYPE " ++ providerReadyName ++ " gauge\n"))

end OidcExchange.Http
