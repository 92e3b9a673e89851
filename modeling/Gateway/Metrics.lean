/-!
# Metrics

Counters and gauges, each a series with a name and labels. Counters only grow,
and what is shown of them are 64 bits; gauges hold what they were set to last.
`Metrics.lines` is the sorted list of all samples.

* `counter_add`, `gauge_set` say what an operation does to the value of every
  series.
-/

namespace Gateway

/-- One line of measurements. -/
structure Series where
  /-- What is measured. -/
  name : String
  /-- What it is measured of. -/
  labels : List (String × String) := []
  deriving DecidableEq, Repr, Inhabited

namespace Series

/-- A label value as it is shown. Line feeds and quotes are escaped. Backslashes
are doubled, but two that stand together count as one that is escaped already,
and one in front of a quote as the quote's own. -/
def escape (value : String) : String :=
  String.ofList (go false value.toList)
where
  /-- Whether a backslash is held back is the state: what follows decides what
  becomes of it. -/
  go : (held : Bool) → List Char → List Char
    | held, [] => settle held
    | held, '\n' :: rest => '\\' :: 'n' :: go held rest
    | _, '"' :: rest => '\\' :: '"' :: go false rest
    | held, '\\' :: rest => settle held ++ go (!held) rest
    | held, c :: rest => settle held ++ c :: go false rest
  /-- What is shown of a backslash that was held back. -/
  settle (held : Bool) : List Char :=
    if held then ['\\', '\\'] else []

/-- The name with its labels. -/
def text (s : Series) : String :=
  if s.labels = [] then s.name
  else
    let parts := s.labels.map fun (key, value) => key ++ "=\"" ++ escape value ++ "\""
    s.name ++ "\x7b" ++ String.intercalate "," parts ++ "\x7d"

/-- The name of the count of measured durations. -/
def durationsName : String := "proxy_request_duration_seconds_count"

/-- Whether samples of the series that are shown alike add up. -/
def addsUp (s : Series) : Bool :=
  s.name == durationsName

end Series

/-- What was measured. -/
structure Metrics where
  /-- The counters that were ever added to. -/
  counters : List (Series × Nat) := []
  /-- The gauges that were ever set. -/
  gauges : List (Series × Nat) := []
  deriving DecidableEq, Repr, Inhabited

namespace Metrics

/-- Changes the value of a key, or enters it. -/
def put {κ : Type} [DecidableEq κ] (key : κ) (f : Option Nat → Nat) :
    List (κ × Nat) → List (κ × Nat)
  | [] => [(key, f none)]
  | (k, v) :: rest =>
    if k = key then (k, f (some v)) :: rest else (k, v) :: put key f rest

/-- The value of a counter, if it was ever added to. -/
def counter? (m : Metrics) (s : Series) : Option Nat :=
  m.counters.lookup s

/-- The value of a gauge, if it was ever set. -/
def gauge? (m : Metrics) (s : Series) : Option Nat :=
  m.gauges.lookup s

/-- Adds to a counter. Adding nothing enters it too. -/
def add (s : Series) (n : Nat) (m : Metrics) : Metrics :=
  { m with counters := put s (fun old => old.getD 0 + n) m.counters }

/-- Sets a gauge. -/
def set (s : Series) (n : Nat) (m : Metrics) : Metrics :=
  { m with gauges := put s (fun _ => n) m.gauges }

/-- One past the largest value that a counter shows. -/
def counterModulus : Nat := UInt64.size

/-- The samples of some series. Those that are shown alike make one sample:
durations add up, and of the others the last counts. -/
def samples (entries : List (Series × Nat)) : List (String × Nat) :=
  entries.foldl (fun shown (s, n) =>
    put s.text (fun old => if s.addsUp then old.getD 0 + n else n) shown) []

/-- All samples, sorted. -/
def lines (m : Metrics) : List String :=
  let counters := (samples m.counters).map fun (text, n) =>
      text ++ " " ++ toString (n % counterModulus)
  let gauges := (samples m.gauges).map fun (text, n) => text ++ " " ++ toString n
  (counters ++ gauges).mergeSort fun a b => decide (a ≤ b)

/-! ## The gateway's own series -/

/-- Requests of a backend that ended so. -/
def requests (backend outcome status : String) : Series :=
  ⟨"proxy_requests_total",
    [("backend", backend), ("outcome", outcome), ("status", status)]⟩

/-- How many durations of requests were measured. -/
def durations (backend : String) : Series :=
  ⟨Series.durationsName, [("backend", backend)]⟩

/-- Bytes of request bodies. -/
def requestBytes (backend : String) : Series :=
  ⟨"proxy_bytes_total", [("backend", backend), ("direction", "request")]⟩

/-- Bytes of response bodies. -/
def responseBytes (backend : String) : Series :=
  ⟨"proxy_bytes_total", [("backend", backend), ("direction", "response")]⟩

/-- Requests for which there was no backend. -/
def noBackend : Series :=
  ⟨"proxy_no_backend_total", []⟩

/-- Connections to a backend. -/
def activeConnections (backend : String) : Series :=
  ⟨"proxy_backend_active_connections", [("backend", backend)]⟩

/-- Whether a backend is healthy. -/
def health (backend : String) : Series :=
  ⟨"proxy_backend_health", [("backend", backend)]⟩

/-- Probes of a backend that ended so. -/
def probes (backend result : String) : Series :=
  ⟨"proxy_health_probes_total", [("backend", backend), ("result", result)]⟩

/-! ## What operations do to values -/

/-- A changed value is found under its key, all others as before. -/
theorem lookup_put {κ : Type} [DecidableEq κ] (key other : κ)
    (f : Option Nat → Nat) (entries : List (κ × Nat)) :
    (put key f entries).lookup other =
      if other = key then some (f (entries.lookup key)) else entries.lookup other := by
  induction entries with
  | nil =>
    by_cases h : other = key
    · simp [put, h]
    · have hb : (other == key) = false := by simp [h]
      simp [put, List.lookup_cons, h, hb]
  | cons e rest ih =>
    obtain ⟨k, v⟩ := e
    by_cases hk : k = key
    · subst hk
      by_cases h : other = k
      · simp [put, h]
      · have hb : (other == k) = false := by simp [h]
        simp [put, List.lookup_cons, h, hb]
    · have hkb : (key == k) = false := by simp [Ne.symm hk]
      by_cases h : other = k
      · subst h
        simp [put, hk]
      · have hb : (other == k) = false := by simp [h]
        simp [put, List.lookup_cons, hk, hb, ih, hkb]

/-- **Adding changes one counter by what is added.** -/
theorem counter_add (s t : Series) (n : Nat) (m : Metrics) :
    (m.add s n).counter? t = if t = s then some ((m.counter? s).getD 0 + n)
      else m.counter? t :=
  lookup_put s t _ _

/-- **Setting changes one gauge to what is set.** -/
theorem gauge_set (s t : Series) (n : Nat) (m : Metrics) :
    (m.set s n).gauge? t = if t = s then some n else m.gauge? t :=
  lookup_put s t _ _

end Metrics

end Gateway
