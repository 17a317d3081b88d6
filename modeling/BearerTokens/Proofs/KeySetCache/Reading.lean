import BearerTokens.Proofs.KeySetCache.History

/-!
# What calls come to

A lookup comes to a set or to an error, and so does a replacement, each once. A set is stored by the call that comes
to it, or found by it while it is the entry. Only a set that the lookup came to is replaced, and what replaces it
was stored after it.
-/

set_option autoImplicit false

namespace BearerTokens.KeySetCache

open BearerTokens.Http BearerTokens.Time

variable {ttl : Int} {h past later : History} {t : Instant} {f : Fact} {n : CallName}

def Reads (h : History) (n : CallName) (purpose : Purpose) (result : Except Error Nat) : Prop :=
  ∃ t f, (t, f) ∈ h ∧ f.progress? = some (n, .read purpose result)

theorem Reads.append {purpose : Purpose} {r : Except Error Nat} (hReads : Reads past n purpose r) (later : History) :
    Reads (past ++ later) n purpose r := by
  obtain ⟨t, f, hMem, hf⟩ := hReads
  exact ⟨t, f, List.mem_append_left _ hMem, hf⟩

theorem reads_of_progress {purpose : Purpose} {r : Except Error Nat} (hRead : progress h n = .read purpose r) :
    Reads h n purpose r := by
  obtain ⟨past, t, f, later, rfl, hf⟩ := exists_of_progress hRead (by simp)
  exact ⟨t, f, by simp, hf⟩

theorem Reads.failed {purpose : Purpose} {e : Error} (hReads : Reads h n purpose (.error e)) :
    ∃ q, Happened h (.failed n purpose q e) := by
  obtain ⟨t, f, hMem, hf⟩ := hReads
  cases f with
  | failed call purpose' q e' =>
    cases hf
    exact ⟨q, t, hMem⟩
  | _ => cases hf

theorem Lawful.reads_unique (hLawful : Lawful ttl h) {purpose purpose' : Purpose} {r r' : Except Error Nat}
    (hReads : Reads h n purpose r) (hReads' : Reads h n purpose' r')
    (hRank : (Progress.read purpose r).rank = (Progress.read purpose' r').rank) : purpose = purpose' ∧ r = r' := by
  obtain ⟨t, f, hMem, hf⟩ := hReads
  obtain ⟨t', f', hMem', hf'⟩ := hReads'
  cases hLawful.fact_unique hMem hMem' hf hf' hRank
  rw [hf] at hf'
  cases hf'
  exact ⟨rfl, rfl⟩

theorem Progress.rank_le_over (p : Progress) : p.rank ≤ Progress.over.rank := by
  unfold Progress.rank
  split <;> decide

/-- After a call is over, nothing concerns it any more. -/
theorem Lawful.mem_before_over (hLawful : Lawful ttl (past ++ (t, f) :: later)) (hOver : f.progress? = some (n, .over))
    {t' : Instant} {f' : Fact} {p : Progress} (hMem : (t', f') ∈ past ++ (t, f) :: later)
    (hf : f'.progress? = some (n, p)) (hp : p ≠ .over) : (t', f') ∈ past := by
  rcases List.mem_append.1 hMem with hPast | hRest
  · exact hPast
  · rcases List.mem_cons.1 hRest with hSame | hLater
    · cases hSame
      rw [hOver] at hf
      cases hf
      exact absurd rfl hp
    · have hWhole : Lawful ttl ((past ++ [(t, f)]) ++ later) := by simpa using hLawful
      have hRank := hWhole.rank_lt_of_later hLater hf
      rw [progress_snoc_self hOver] at hRank
      exact absurd hRank (Nat.not_lt.2 p.rank_le_over)

theorem Lawful.reads_before_over (hLawful : Lawful ttl (past ++ (t, f) :: later)) (hOver : f.progress? = some (n, .over))
    {purpose : Purpose} {r : Except Error Nat} (hReads : Reads (past ++ (t, f) :: later) n purpose r) :
    Reads past n purpose r := by
  obtain ⟨t', f', hMem, hf⟩ := hReads
  exact ⟨t', f', hLawful.mem_before_over hOver hMem hf (by simp), hf⟩

theorem Lawful.rank_le_of_reads (hLawful : Lawful ttl h) {purpose : Purpose} {r : Except Error Nat}
    (hReads : Reads h n purpose r) : (Progress.read purpose r).rank ≤ (progress h n).rank := by
  obtain ⟨t, f, hMem, hf⟩ := hReads
  exact hLawful.rank_le_of_mem hMem hf

def Progress.Replaces (p : Progress) (stale : Nat) : Prop :=
  p.Waits (.replacement stale) ∨ ∃ r, p = .read (.replacement stale) r

theorem Lawful.reads_of_seeks {stale : Nat} (hSeeks : (progress h n).Seeks (.replacement stale)) :
    Reads h n .lookup (.ok stale) := by
  rcases hSeeks.cases with ⟨-, hLookup⟩ | ⟨number, hRead, hSame⟩
  · cases hLookup
  · cases hSame
    exact reads_of_progress hRead

/-- Only a set that a lookup came to is replaced. -/
theorem Lawful.reads_of_replaces (hLawful : Lawful ttl h) {stale : Nat}
    (hReplaces : (progress h n).Replaces stale) : Reads h n .lookup (.ok stale) := by
  have hLoaded {h : History} (hLawful : Lawful ttl h) {q : Nat}
      (hLoads : progress h n = .loading (.replacement stale) q) : Reads h n .lookup (.ok stale) := by
    obtain ⟨past, t, f, later, rfl, hf⟩ := exists_of_progress hLoads (by simp)
    cases f with
    | sent call purpose request =>
      cases hf
      exact (Lawful.reads_of_seeks hLawful.allows.1).append _
    | _ => cases hf
  rcases hReplaces with (hSeeks | ⟨q, hLoads⟩) | ⟨r, hRead⟩
  · exact Lawful.reads_of_seeks hSeeks
  · exact hLoaded hLawful hLoads
  · obtain ⟨past, t, f, later, rfl, hf⟩ := exists_of_progress hRead (by simp)
    have hAllowed := hLawful.allows
    cases f with
    | stored call purpose q e =>
      cases hf
      exact (hLoaded hLawful.split hAllowed.1).append _
    | failed call purpose q e =>
      cases hf
      cases q with
      | none => exact (Lawful.reads_of_seeks hAllowed.1).append _
      | some q => exact (hLoaded hLawful.split hAllowed).append _
    | found call purpose number =>
      cases hf
      exact (Lawful.reads_of_seeks hAllowed.1).append _
    | _ => cases hf

theorem Lawful.reads_lookup (hLawful : Lawful ttl h) {stale : Nat} {r : Except Error Nat}
    (hReads : Reads h n (.replacement stale) r) : Reads h n .lookup (.ok stale) := by
  obtain ⟨t, f, hMem, hf⟩ := hReads
  obtain ⟨past, later, rfl⟩ := List.append_of_mem hMem
  rw [List.append_cons] at hLawful ⊢
  exact (hLawful.split.reads_of_replaces (.inr ⟨r, progress_snoc_self hf⟩)).append later

/-- A call has come to a set: it stored the set itself, or it found it while that was the entry and made a
download needless. -/
def CameTo (ttl : Int) (h : History) (n : CallName) (purpose : Purpose) (s : Stored) : Prop :=
  (∃ q e, Happened h (.stored n purpose q e) ∧ e.stored = s) ∨
    ∃ past t later e, h = past ++ (t, .found n purpose s.number) :: later ∧ IsLastEntry past e ∧ e.stored = s ∧
      e.Suits t ttl purpose

section CameTo

variable {purpose : Purpose} {s s' : Stored}

theorem CameTo.append (hCame : CameTo ttl past n purpose s) (later : History) :
    CameTo ttl (past ++ later) n purpose s := by
  rcases hCame with ⟨q, e, hStored, hSet⟩ | ⟨before, t, after, e, rfl, hLast⟩
  · exact .inl ⟨q, e, hStored.append_left later, hSet⟩
  · exact .inr ⟨before, t, after ++ later, e, by simp, hLast⟩

theorem CameTo.reads (hCame : CameTo ttl h n purpose s) : Reads h n purpose (.ok s.number) := by
  rcases hCame with ⟨q, e, ⟨t, hMem⟩, rfl⟩ | ⟨past, t, later, e, rfl, -⟩
  · exact ⟨t, _, hMem, rfl⟩
  · exact ⟨t, .found n purpose s.number, by simp, rfl⟩

theorem CameTo.mem_sets (hCame : CameTo ttl h n purpose s) : s ∈ sets h := by
  rcases hCame with ⟨q, e, hStored, rfl⟩ | ⟨past, t, later, e, rfl, hLast, rfl, -⟩
  · exact mem_sets_iff.2 ⟨n, purpose, q, e, hStored, rfl⟩
  · rw [sets_append]
    exact List.mem_append_left _ hLast.mem_sets

theorem Lawful.cameTo (hLawful : Lawful ttl h) (hReads : Reads h n purpose (.ok s.number)) (hs : s ∈ sets h) :
    CameTo ttl h n purpose s := by
  obtain ⟨t, f, hMem, hf⟩ := hReads
  cases f with
  | stored call purpose' q e =>
    injection hf with hf
    injection hf with hCall hf
    injection hf with hPurpose hf
    injection hf with hNumber
    subst hCall hPurpose
    have hSet : e.stored ∈ sets h := mem_sets_iff.2 ⟨call, purpose', q, e, ⟨t, hMem⟩, rfl⟩
    exact .inl ⟨q, e, ⟨t, hMem⟩, hLawful.set_unique hSet hs hNumber⟩
  | found call purpose' number =>
    cases hf
    obtain ⟨past, later, rfl⟩ := List.append_of_mem hMem
    obtain ⟨-, e, hContent, hNumber, hSuits⟩ := hLawful.allows
    have hLast := content_eq_some_iff.1 hContent
    have hSet : e.stored ∈ sets (past ++ (t, .found n purpose s.number) :: later) := by
      rw [sets_append]
      exact List.mem_append_left _ hLast.mem_sets
    exact .inr ⟨past, t, later, e, rfl, hLast, hLawful.set_unique hSet hs hNumber, hSuits⟩
  | _ => cases hf

theorem Lawful.cameTo_unique (hLawful : Lawful ttl h) (hCame : CameTo ttl h n .lookup s)
    (hCame' : CameTo ttl h n .lookup s') : s = s' := by
  obtain ⟨-, hSame⟩ := hLawful.reads_unique hCame.reads hCame'.reads rfl
  exact hLawful.set_unique hCame.mem_sets hCame'.mem_sets (Except.ok.inj hSame)

/-- What a call comes to was stored last then, by itself or before. -/
theorem Lawful.number_of_reads (hLawful : Lawful ttl (past ++ (t, f) :: later)) {number : Nat}
    (hf : f.progress? = some (n, .read purpose (.ok number))) :
    (sets past).length ≤ number + 1 ∧ number < (sets (past ++ [(t, f)])).length := by
  have hAllowed := hLawful.allows
  rw [sets_snoc, List.length_append]
  cases f with
  | stored call purpose' q e =>
    injection hf with hf
    injection hf with hCall hf
    injection hf with hPurpose hf
    injection hf with hNumber
    have hCount := hAllowed.2.1
    simp only [Fact.set?, Option.toList_some, List.length_singleton]
    omega
  | found call purpose' number' =>
    cases hf
    obtain ⟨-, e, hContent, rfl, -⟩ := hAllowed
    have hCount := hLawful.split.number_of_content hContent
    simp only [Fact.set?, Option.toList_none, List.length_nil]
    omega
  | _ => cases hf

/-- A call that replaces a set comes to one that was stored after it. -/
theorem Lawful.newer (hLawful : Lawful ttl h) {stale : Nat} (hCame : CameTo ttl h n (.replacement stale) s') :
    stale < s'.number := by
  -- a call can only replace a set that was stored before it came to it
  have hKnown {past later : History} (hLawful : Lawful ttl (past ++ later))
      (hReplaces : (progress past n).Replaces stale) : stale < (sets past).length := by
    obtain ⟨t, f, hMem, hf⟩ := hLawful.split.reads_of_replaces hReplaces
    obtain ⟨before, after, rfl⟩ := List.append_of_mem hMem
    have hCount := (hLawful.split.number_of_reads hf).2
    rw [List.append_cons, sets_append, List.length_append]
    omega
  rcases hCame with ⟨q, e, ⟨t, hMem⟩, rfl⟩ | ⟨past, t, later, e, rfl, hLast, rfl, hSuits⟩
  · obtain ⟨past, later, rfl⟩ := List.append_of_mem hMem
    obtain ⟨hLoads, hNumber, -⟩ := hLawful.allows
    have hCount := hKnown hLawful (.inl (.inr ⟨q, hLoads⟩))
    omega
  · have hCount := hKnown hLawful (.inl (.inl hLawful.allows.1))
    have hLatest := hLawful.split.number_of_content (content_eq_some_iff.2 hLast)
    have hOther : e.stored.number ≠ stale := hSuits
    omega

end CameTo

def StoredBefore (h : History) (s s' : Stored) : Prop :=
  ∃ past t n purpose q e later, h = past ++ (t, .stored n purpose q e) :: later ∧ e.stored = s ∧ s' ∈ sets later

theorem Lawful.storedBefore (hLawful : Lawful ttl h) {s s' : Stored} (hs : s ∈ sets h) (hs' : s' ∈ sets h)
    (hNumber : s.number < s'.number) : StoredBefore h s s' := by
  obtain ⟨n, purpose, q, e, ⟨t, hMem⟩, rfl⟩ := mem_sets_iff.1 hs
  obtain ⟨past, later, rfl⟩ := List.append_of_mem hMem
  obtain ⟨-, hCount, -⟩ := hLawful.allows
  refine ⟨past, t, n, purpose, q, e, later, rfl, rfl, ?_⟩
  rw [List.append_cons] at hLawful hs'
  refine hLawful.stored_later hs' ?_
  rw [sets_snoc, List.length_append]
  simp only [Fact.set?, Option.toList_some, List.length_singleton]
  omega

theorem Lawful.began_of_progress (hLawful : Lawful ttl h) (hProgress : progress h n ≠ .absent) :
    Happened h (.began n) := by
  induction h using List.reverseRecOn with
  | nil => exact absurd rfl hProgress
  | append_singleton past last ih =>
    obtain ⟨t, f⟩ := last
    by_cases hBegan : f = .began n
    · exact happened_snoc.2 (.inr hBegan.symm)
    · refine (ih hLawful.split fun hAbsent => ?_).append_left _
      by_cases hf : ∃ p, f.progress? = some (n, p)
      · obtain ⟨p, hSome⟩ := hf
        have hAllowed := hLawful.allows
        cases f with
        | began call =>
          cases hSome
          exact hBegan rfl
        | failed call purpose q e =>
          cases hSome
          cases q <;> simp [Allows, hAbsent, Progress.Seeks] at hAllowed
        | replied q => cases hSome
        | invalidated => cases hSome
        | _ =>
          cases hSome
          simp [Allows, hAbsent, Progress.Seeks, Progress.Waits] at hAllowed
      · rw [progress_snoc_other fun p hSome => hf ⟨p, hSome⟩] at hProgress
        exact hProgress hAbsent

/-- Once a call has begun that misses its key, a set is stored that replaces the one it missed it in. -/
theorem Lawful.stored_since (hLawful : Lawful ttl (past ++ later)) (hNew : ¬ Happened past (.began n))
    {s s' : Stored} (hCame : CameTo ttl (past ++ later) n .lookup s)
    (hAgain : CameTo ttl (past ++ later) n (.replacement s.number) s') : s' ∈ sets later := by
  have hAbsent : progress past n = .absent := by
    by_contra hProgress
    exact hNew (hLawful.split.began_of_progress hProgress)
  have hNewer := hLawful.newer hAgain
  refine hLawful.stored_later hAgain.mem_sets ?_
  -- the lookup came to its set after that instant, so its number is at least that of the last set of the past
  obtain ⟨t, f, hMem, hf⟩ := hCame.reads
  rcases List.mem_append.1 hMem with hPast | hLater
  · have hRank := hLawful.split.rank_le_of_mem hPast hf
    rw [hAbsent] at hRank
    simp [Progress.rank] at hRank
  · obtain ⟨mid, after, rfl⟩ := List.append_of_mem hLater
    have hWhole : Lawful ttl ((past ++ mid) ++ (t, f) :: after) := by simpa using hLawful
    have hCount := (hWhole.number_of_reads hf).1
    rw [sets_append, List.length_append] at hCount
    omega

structure UnderWay (h : History) (n : CallName) (purpose : Purpose) (q : Nat) : Prop where
  sent : Happened h (.sent n purpose q)
  stored : ∀ e, ¬ Happened h (.stored n purpose q e)
  failed : ∀ e, ¬ Happened h (.failed n purpose (some q) e)
  cancelled : ¬ Happened h (.cancelled n)

/-- A set is stored that was asked for since an instant, or whose request was under way then. -/
theorem Lawful.sent_or_underWay {purpose : Purpose} {q : Nat} {e : Entry}
    (hLawful : Lawful ttl (past ++ later ++ (t, .stored n purpose q e) :: h)) :
    Happened later (.sent n purpose q) ∨ UnderWay past n purpose q := by
  obtain ⟨hLoads, -⟩ := hLawful.allows
  rcases happened_append.1 (sent_of_loading hLoads) with hBefore | hSince
  · -- the call has got no further than its download, so nothing in the past ended it
    have hUnended {f : Fact} {p : Progress} (hf : f.progress? = some (n, p))
        (hp : (Progress.loading purpose q).rank < p.rank) : ¬ Happened past f := by
      rintro ⟨t', hMem⟩
      have hRank := hLawful.split.rank_le_of_mem (List.mem_append_left later hMem) hf
      rw [hLoads] at hRank
      omega
    have hRead (r : Except Error Nat) : (Progress.loading purpose q).rank < (Progress.read purpose r).rank := by
      cases purpose <;> simp [Progress.rank]
    have hOver : (Progress.loading purpose q).rank < Progress.over.rank := by
      cases purpose <;> simp [Progress.rank]
    exact .inr ⟨hBefore, fun e => hUnended rfl (hRead _), fun e => hUnended rfl (hRead _), hUnended rfl hOver⟩
  · exact .inl hSince

/-- A download is ended by the next fact that concerns its call. -/
theorem Allows.ends {purpose : Purpose} {q : Nat} {p : Progress} (hAllowed : Allows ttl past t f)
    (hLoads : progress past n = .loading purpose q) (hf : f.progress? = some (n, p)) :
    (∃ e, f = .stored n purpose q e) ∨ (∃ e, f = .failed n purpose (some q) e) ∨ f = .cancelled n := by
  cases f with
  | stored call purpose' q' e =>
    cases hf
    cases hLoads.symm.trans hAllowed.1
    exact .inl ⟨e, rfl⟩
  | failed call purpose' request e =>
    cases hf
    cases request with
    | none => simp [Allows, hLoads, Progress.Seeks] at hAllowed
    | some q' =>
      cases hLoads.symm.trans hAllowed
      exact .inr (.inl ⟨e, rfl⟩)
  | cancelled call =>
    cases hf
    exact .inr (.inr rfl)
  | replied q' => cases hf
  | invalidated => cases hf
  | _ =>
    cases hf
    simp [Allows, hLoads, Progress.Seeks] at hAllowed

theorem Lawful.outcome (hLawful : Lawful ttl h) {purpose : Purpose} {q : Nat}
    (hSent : Happened h (.sent n purpose q)) :
    progress h n = .loading purpose q ∨ (∃ e, Happened h (.stored n purpose q e)) ∨
      (∃ e, Happened h (.failed n purpose (some q) e)) ∨ Happened h (.cancelled n) := by
  induction h using List.reverseRecOn with
  | nil =>
    obtain ⟨t, hMem⟩ := hSent
    cases hMem
  | append_singleton past last ih =>
    obtain ⟨t, f⟩ := last
    simp only [happened_snoc, exists_or]
    rcases happened_snoc.1 hSent with hOld | rfl
    · rcases ih hLawful.split hOld with hLoads | hStored | hFailed | hCancelled
      · by_cases hf : ∃ p, f.progress? = some (n, p)
        · obtain ⟨p, hSome⟩ := hf
          rcases hLawful.allows.ends hLoads hSome with ⟨e, rfl⟩ | ⟨e, rfl⟩ | rfl
          · exact .inr (.inl (.inr ⟨e, rfl⟩))
          · exact .inr (.inr (.inl (.inr ⟨e, rfl⟩)))
          · exact .inr (.inr (.inr (.inr rfl)))
        · rw [progress_snoc_other fun p hSome => hf ⟨p, hSome⟩]
          exact .inl hLoads
      · exact .inr (.inl (.inl hStored))
      · exact .inr (.inr (.inl (.inl hFailed)))
      · exact .inr (.inr (.inr (.inl hCancelled)))
    · exact .inl (progress_snoc_self rfl)

end BearerTokens.KeySetCache
