import BoardSmoke.Report

namespace BoardSmoke

namespace RoundTrip

variable {initial probe fallback : String}

def initial? : RoundTrip → Option String
  | .missing _ => none
  | .completed initial _ _ _ => some initial

theorem temporaryValue_of (p : String → Prop) (hprobe : p probe) (hfallback : p fallback) :
    p (temporaryValue initial probe fallback) := by
  rw [temporaryValue]
  split
  · exact hfallback
  · exact hprobe

-- The temporary value is another one, unless neither the probe nor the fallback is.
theorem temporaryValue_eq_iff :
    temporaryValue initial probe fallback = initial ↔ probe = initial ∧ fallback = initial := by
  rw [temporaryValue]
  by_cases hprobe : initial = probe
  · simp [hprobe]
  · simp [hprobe, eq_comm]

end RoundTrip

namespace Warning

theorem ofBootLog_eq_nil_iff (log : String) : ofBootLog log = [] ↔ log ≠ "" := by
  by_cases hlog : log = ""
  · simp [ofBootLog, hlog]
  · simp [ofBootLog, hlog]

theorem ofRoundTrip_eq_nil_iff (name : String) (roundTrip : RoundTrip) :
    ofRoundTrip name roundTrip = [] ↔ roundTrip.isRestored = true := by
  cases roundTrip with
  | missing response => simp [ofRoundTrip, RoundTrip.isRestored]
  | completed initial temporary updated restored => simp [ofRoundTrip]

end Warning

end BoardSmoke
