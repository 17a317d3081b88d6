import BearerTokens.Proofs.KeySetCache.Metrics
import BearerTokens.Proofs.TokenCache.Metrics

/-!
# Metrics of both caches

A token cache and a key-set cache keep their metrics apart, though they may share the counters.
-/

set_option autoImplicit false

namespace BearerTokens

open BearerTokens.Http BearerTokens.Time

theorem reading_append (notes later : List Note) (op : Operation) (outcome : FetchOutcome) :
    reading (notes ++ later) (.fetch op outcome) =
      reading notes (.fetch op outcome) + reading later (.fetch op outcome) := by
  rw [reading_fetch, reading_fetch, reading_fetch, List.count_append]

/-- What the metrics of a token cache and a key-set cache add up to. -/
structure MetricsConserved (t : TokenCache) (k : KeySetCache) : Prop where
  tokens : t.Conserved
  keySets : k.Conserved
  /-- Where both report to the same counters, each operation is counted as it is by its own cache. -/
  shared : ∀ op outcome, reading (t.notes ++ k.notes) (.fetch op outcome) =
    match op with
    | .token => reading t.notes (.fetch .token outcome)
    | .keySet => reading k.notes (.fetch .keySet outcome)

/-- In every run of either cache, its metrics are conserved. -/
theorem run_metricsConserved (grant : Grant) (ttl : Int) (classify classify' : Classifier) (clock clock' : Clock)
    (checks : Checks) (events : List TokenCache.Event) (events' : List KeySetCache.Event) :
    MetricsConserved ((TokenCache.new grant classify clock).run events)
      ((KeySetCache.empty ttl classify' clock' checks).run events') := by
  have hTokens := TokenCache.run_conserved grant classify clock events
  have hKeySets := KeySetCache.run_conserved ttl classify' clock' checks events'
  refine ⟨hTokens, hKeySets, fun op outcome => ?_⟩
  rw [reading_append]
  cases op with
  | token => rw [hKeySets.elsewhere, Nat.add_zero]
  | keySet => rw [hTokens.elsewhere, Nat.zero_add]

end BearerTokens
