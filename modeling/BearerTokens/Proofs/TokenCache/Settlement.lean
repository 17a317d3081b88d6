import BearerTokens.Proofs.TokenCache.Record

/-!
# Settlements on record

Where the result of an exchange comes from: the reply to its one request is read once, and at that instant
the exchange is settled with what the reply amounts to, or breaks.
-/

set_option autoImplicit false

namespace BearerTokens.TokenCache

open BearerTokens.Http BearerTokens.Time

variable {grant : Grant} {classify : Classifier} {c c' : TokenCache}

/-- What ends an exchange at `now`: a request that cannot be built, or the reply that is read. -/
def Concluded (grant : Grant) (classify : Classifier) (h : History) (now : Instant) (exchange : Nat)
    (result : Option Exchange.Result) : Prop :=
  (∃ reply, (now, .judged exchange reply) ∈ h ∧ Exchange.conclude classify now reply = result) ∨
    ∃ e, grant.request = .error e ∧ result = some (.error (.config e))

theorem Concluded.of_subset {part whole : History} (hSubset : part ⊆ whole) {now : Instant}
    {exchange : Nat} {result : Option Exchange.Result}
    (h : Concluded grant classify part now exchange result) :
    Concluded grant classify whole now exchange result := by
  rcases h with ⟨reply, hJudged, hConclude⟩ | hUnbuilt
  · exact .inl ⟨reply, hSubset hJudged, hConclude⟩
  · exact .inr hUnbuilt

structure SettlementsRecorded (grant : Grant) (classify : Classifier) (c : TokenCache) : Prop where
  sameGrant : c.grant = grant
  sameClassify : c.classify = classify
  settled : ∀ t e result, (t, .settled e result) ∈ c.history →
    Concluded grant classify c.history t e (some result)
  broke : ∀ t e, (t, .broke e) ∈ c.history → Concluded grant classify c.history t e none

theorem settlementsRecorded_new (grant : Grant) (classify : Classifier) (clock : Clock) :
    SettlementsRecorded grant classify (new grant classify clock) where
  sameGrant := rfl
  sameClassify := rfl
  settled := by simp [new]
  broke := by simp [new]

theorem SettlementsRecorded.extend (h : SettlementsRecorded grant classify c) {later : History}
    (hGrant : c'.grant = c.grant) (hClassify : c'.classify = c.classify)
    (hHistory : c'.history = c.history ++ later)
    (hSettled : ∀ t e result, (t, .settled e result) ∈ later →
      Concluded grant classify later t e (some result))
    (hBroke : ∀ t e, (t, .broke e) ∈ later → Concluded grant classify later t e none) :
    SettlementsRecorded grant classify c' where
  sameGrant := hGrant.trans h.sameGrant
  sameClassify := hClassify.trans h.sameClassify
  settled t e result hMem := by
    rw [hHistory] at hMem ⊢
    rcases List.mem_append.1 hMem with hOld | hNew
    · exact (h.settled t e result hOld).of_subset (List.subset_append_left _ _)
    · exact (hSettled t e result hNew).of_subset (List.subset_append_right _ _)
  broke t e hMem := by
    rw [hHistory] at hMem ⊢
    rcases List.mem_append.1 hMem with hOld | hNew
    · exact (h.broke t e hOld).of_subset (List.subset_append_left _ _)
    · exact (hBroke t e hNew).of_subset (List.subset_append_right _ _)

theorem SettlementsRecorded.judge (h : SettlementsRecorded grant classify c) (e : Nat) (reply : Reply) :
    SettlementsRecorded grant classify (c.judge e reply) := by
  have hHistory := judge_history c e reply
  rw [h.sameClassify] at hHistory
  refine h.extend (judge_grant c e reply) (judge_classify c e reply) hHistory ?_ ?_
  · intro t e' result hMem
    cases hConclude : Exchange.conclude classify c.clock.now reply with
    | none => simp [hConclude] at hMem
    | some result' =>
      obtain ⟨rfl, rfl, rfl⟩ : t = c.clock.now ∧ e' = e ∧ result = result' := by
        simpa [hConclude] using hMem
      exact .inl ⟨reply, List.mem_cons_self, hConclude⟩
  · intro t e' hMem
    cases hConclude : Exchange.conclude classify c.clock.now reply with
    | some result => simp [hConclude] at hMem
    | none =>
      obtain ⟨rfl, rfl⟩ : t = c.clock.now ∧ e' = e := by simpa [hConclude] using hMem
      exact .inl ⟨reply, List.mem_cons_self, hConclude⟩

theorem SettlementsRecorded.start (h : SettlementsRecorded grant classify c) (ready : Option Reply) :
    SettlementsRecorded grant classify (c.start ready) := by
  have hHistory := start_history c ready
  rw [h.sameGrant] at hHistory
  refine h.extend (start_grant c ready) (start_classify c ready) hHistory ?_ ?_
  · intro t e result hMem
    cases hRequest : grant.request with
    | error err =>
      obtain ⟨-, -, rfl⟩ : t = c.clock.now ∧ e = c.exchanges.length ∧ result = .error (.config err) := by
        simpa [hRequest] using hMem
      exact .inr ⟨err, hRequest, rfl⟩
    | ok r => cases ready <;> simp [hRequest] at hMem
  · intro t e hMem
    cases hRequest : grant.request with
    | error err => simp [hRequest] at hMem
    | ok r => cases ready <;> simp [hRequest] at hMem

theorem SettlementsRecorded.move (h : SettlementsRecorded grant classify c) (hMove : Move c c') :
    SettlementsRecorded grant classify c' := by
  cases hMove with
  | start => exact h.start _
  | judge => exact h.judge _ _
  | release =>
    exact h.extend (release_grant c) (release_classify c) (release_history c) (by simp) (by simp)
  | serve => exact h.extend rfl rfl rfl (by simp) (by simp)
  | join => exact h.extend rfl rfl rfl (by simp) (by simp)
  | cancel => exact h.extend rfl rfl rfl (by simp) (by simp)
  | reply => exact h.extend rfl rfl rfl (by simp) (by simp)
  | clear => exact h.extend rfl rfl rfl (by simp) (by simp)
  | answer => exact ⟨h.sameGrant, h.sameClassify, h.settled, h.broke⟩
  | setClock => exact ⟨h.sameGrant, h.sameClassify, h.settled, h.broke⟩
  | share => exact ⟨h.sameGrant, h.sameClassify, h.settled, h.broke⟩
  | giveBack => exact ⟨h.sameGrant, h.sameClassify, h.settled, h.broke⟩

theorem settlementsRecorded_run (grant : Grant) (classify : Classifier) (clock : Clock)
    (events : List Event) : SettlementsRecorded grant classify ((new grant classify clock).run events) :=
  run_induction (fun hMove h => h.move hMove) (settlementsRecorded_new grant classify clock) events

theorem Lawful.replied_of_judged {h : History} (hLawful : Lawful h) {now : Instant} {e : Nat} {reply : Reply}
    (hJudged : (now, .judged e reply) ∈ h) : ∃ past later q, h = past ++ (now, .judged e reply) :: later ∧
      Happened past (.sent e q) ∧ Happened past (.replied q reply) := by
  obtain ⟨past, later, rfl⟩ := List.append_of_mem hJudged
  obtain ⟨-, -, q, hSent, hReplied⟩ := hLawful.allows
  exact ⟨past, later, q, rfl, hSent, hReplied⟩

end BearerTokens.TokenCache
