import BearerTokens.Proofs.KeySetCache.Download
import BearerTokens.Proofs.KeySetCache.Reading
import BearerTokens.Proofs.KeySetCache.Record

/-!
# Downloads take turns

Where downloads never overlap, each of them has the lane to itself: from the sending of its request to its end,
nothing else is sent and nothing else ends. So whatever was stored before a download ends was stored before its
request was sent, and was known then.
-/

set_option autoImplicit false

namespace BearerTokens.KeySetCache

open BearerTokens.Http BearerTokens.Time

variable {ttl : Int} {h past later : History} {t : Instant} {f : Fact} {n : CallName} {purpose : Purpose} {q : Nat}

def Apart (h : History) : Prop :=
  ∀ past, past <+: h → (downloads past).length ≤ 1

theorem Apart.split (hApart : Apart (past ++ later)) : Apart past :=
  fun before hBefore => hApart before (hBefore.trans (List.prefix_append past later))

theorem Apart.length_le (hApart : Apart h) : (downloads h).length ≤ 1 :=
  hApart h List.prefix_rfl

theorem Apart.eq_of_mem (hApart : Apart h) (hMem : (n, q) ∈ downloads h) : downloads h = [(n, q)] := by
  obtain ⟨d, hSingle⟩ := List.length_eq_one_iff.1 (Nat.le_antisymm hApart.length_le (List.length_pos_of_mem hMem))
  rw [hSingle, List.mem_singleton] at hMem
  rw [hSingle, hMem]

theorem mem_downloads_of_other (hOther : ∀ p, f.progress? ≠ some (n, p)) (current : List (CallName × Nat)) :
    (n, q) ∈ f.downloads current ↔ (n, q) ∈ current := by
  cases f with
  | sent call p q' =>
    have hName : n ≠ call := fun hSame => hOther (.loading p q') (hSame ▸ rfl)
    simp [Fact.downloads, hName]
  | stored call p q' e =>
    have hName : n ≠ call := fun hSame => hOther (.read p (.ok e.stored.number)) (hSame ▸ rfl)
    simp [Fact.downloads, without, hName]
  | failed call p request e =>
    have hName : n ≠ call := fun hSame => hOther (.read p (.error e)) (hSame ▸ rfl)
    cases request <;> simp [Fact.downloads, without, hName]
  | cancelled call =>
    have hName : n ≠ call := fun hSame => hOther .over (hSame ▸ rfl)
    simp [Fact.downloads, hName]
  | _ => rfl

/-- The downloads under way are those of the calls that have got as far as loading. -/
theorem Lawful.mem_downloads_iff (hLawful : Lawful ttl h) :
    (n, q) ∈ downloads h ↔ ∃ purpose, progress h n = .loading purpose q := by
  induction h using List.reverseRecOn with
  | nil => simp
  | append_singleton past last ih =>
    obtain ⟨t, f⟩ := last
    rw [downloads_snoc]
    by_cases hf : ∃ p, f.progress? = some (n, p)
    · obtain ⟨p, hSome⟩ := hf
      have hAllowed := hLawful.allows
      have hNone (hIdle : ∀ purpose, progress past n ≠ .loading purpose q) : (n, q) ∉ downloads past :=
        fun hMem => (ih hLawful.split).1 hMem |>.elim hIdle
      have hSeeks {purpose' : Purpose} (h : (progress past n).Seeks purpose') : (n, q) ∉ downloads past := by
        refine hNone fun purpose hLoads => ?_
        rw [hLoads] at h
        exact h
      have hOnly {purpose' : Purpose} {q' : Nat} (h : progress past n = .loading purpose' q') :
          (n, q) ∈ downloads past → q = q' := fun hMem => by
        obtain ⟨purpose, hLoads⟩ := (ih hLawful.split).1 hMem
        cases hLoads.symm.trans h
        rfl
      rw [progress_snoc_self hSome]
      cases f with
      | began call =>
        cases hSome
        have hAbsent : progress past n = .absent := hAllowed
        simpa [Fact.downloads] using hNone (by simp [hAbsent])
      | sent call p q' =>
        cases hSome
        simp [Fact.downloads, hSeeks hAllowed.1, eq_comm]
      | stored call p q' e =>
        cases hSome
        simpa [Fact.downloads, without] using hOnly hAllowed.1
      | failed call p request e =>
        cases hSome
        cases request with
        | none => simpa [Fact.downloads, without] using hSeeks hAllowed.1
        | some q' =>
          simpa [Fact.downloads, without] using hOnly hAllowed
      | found call p number =>
        cases hSome
        simpa [Fact.downloads] using hSeeks hAllowed.1
      | finished call =>
        cases hSome
        refine iff_of_false (hNone fun purpose hLoads => ?_) (by simp)
        simp [Allows, hLoads] at hAllowed
      | cancelled call =>
        cases hSome
        simp [Fact.downloads]
      | replied q' => cases hSome
      | invalidated => cases hSome
    · have hOther : ∀ p, f.progress? ≠ some (n, p) := fun p hSome => hf ⟨p, hSome⟩
      rw [progress_snoc_other hOther, mem_downloads_of_other hOther]
      exact ih hLawful.split

theorem Lawful.downloads_eq (hLawful : Lawful ttl h) (hApart : Apart h)
    (hLoads : progress h n = .loading purpose q) : downloads h = [(n, q)] :=
  hApart.eq_of_mem (hLawful.mem_downloads_iff.2 ⟨purpose, hLoads⟩)

/-- The download of a call had the lane to itself. -/
theorem Lawful.turn (hLawful : Lawful ttl h) (hApart : Apart h) (hLoads : progress h n = .loading purpose q) :
    ∃ past t mid, h = past ++ (t, .sent n purpose q) :: mid ∧
      ∀ f, Happened mid f → f.request? = none ∧ f.ends? = none := by
  obtain ⟨past, t, f, mid, rfl, hf⟩ := exists_of_progress hLoads (by simp)
  cases f with
  | sent call p request =>
    cases hf
    refine ⟨past, t, mid, rfl, fun g hg => ?_⟩
    rw [List.append_cons] at hLawful hApart hLoads
    -- the call does nothing until the end of its download
    have hSilent {t' : Instant} {g' : Fact} {p : Progress} (hMem : (t', g') ∈ mid) :
        g'.progress? ≠ some (n, p) := fun hg' => by
      have hBelow := hLawful.rank_lt_of_later hMem hg'
      have hAbove := hLawful.rank_le_of_mem (List.mem_append_right _ hMem) hg'
      rw [progress_snoc_self rfl] at hBelow
      rw [hLoads] at hAbove
      omega
    obtain ⟨t', hMem⟩ := hg
    obtain ⟨before, after, rfl⟩ := List.append_of_mem hMem
    rw [← List.append_assoc] at hLawful hApart
    have hStill : progress (past ++ [(t, .sent n purpose q)] ++ before) n = .loading purpose q := by
      rw [progress_append_of_other fun g' p hg' => ?_, progress_snoc_self rfl]
      obtain ⟨t'', hEarlier⟩ := hg'
      exact hSilent (List.mem_append_left _ hEarlier)
    have hAlone : downloads (past ++ [(t, .sent n purpose q)] ++ before) = [(n, q)] :=
      hLawful.split.downloads_eq hApart.split hStill
    -- so a download that is sent here would be a second one, and one that ends here would be its own
    have hOwn {m : CallName} {p : Purpose} {q' : Nat} {r : Progress}
        (hLoads' : progress (past ++ [(t, .sent n purpose q)] ++ before) m = .loading p q')
        (hg : g.progress? = some (m, r)) : False := by
      cases hAlone.symm.trans (hLawful.split.downloads_eq hApart.split hLoads')
      exact hSilent hMem hg
    have hAllowed := hLawful.allows
    cases g with
    | sent m p q' =>
      rw [List.append_cons] at hApart
      have hTwo := hApart.split.length_le
      rw [downloads_snoc, hAlone] at hTwo
      simp [Fact.downloads] at hTwo
    | stored m p q' e => exact (hOwn hAllowed.1 rfl).elim
    | failed m p request e =>
      cases request with
      | none => exact ⟨rfl, rfl⟩
      | some q' => exact (hOwn hAllowed rfl).elim
    | _ => exact ⟨rfl, rfl⟩
  | _ => cases hf

theorem Lawful.fetchedAt_eq {e : Entry} (hLawful : Lawful ttl h) (hMem : (t, .stored n purpose q e) ∈ h) :
    e.fetchedAt = t := by
  obtain ⟨past, later, rfl⟩ := List.append_of_mem hMem
  exact hLawful.allows.2.2

/-- As long as nothing is invalidated, a set that was stored is the entry, or one that was stored after it. -/
theorem content_since (past : History) (t : Instant) (n : CallName) (purpose : Purpose) (q : Nat) (e : Entry)
    (hKept : ¬ Happened later .invalidated) :
    ∃ t' n' purpose' q' e', (t', .stored n' purpose' q' e') ∈ (t, Fact.stored n purpose q e) :: later ∧
      content (past ++ (t, .stored n purpose q e) :: later) = some e' := by
  induction later using List.reverseRecOn with
  | nil =>
    refine ⟨t, n, purpose, q, e, List.mem_singleton_self _, ?_⟩
    rw [content_snoc]
    rfl
  | append_singleton later last ih =>
    obtain ⟨t', f⟩ := last
    obtain ⟨t'', n', purpose', q', e', hMem, hContent⟩ := ih fun hOld => hKept (hOld.append_left _)
    have hSplit : past ++ (t, .stored n purpose q e) :: (later ++ [(t', f)]) =
        (past ++ (t, .stored n purpose q e) :: later) ++ [(t', f)] := by simp
    rw [hSplit, content_snoc, hContent]
    cases f with
    | stored n'' purpose'' q'' e'' => exact ⟨t', n'', purpose'', q'', e'', by simp, rfl⟩
    | invalidated => exact absurd (happened_snoc.2 (.inr rfl)) hKept
    | _ => exact ⟨t'', n', purpose', q', e', List.mem_append_left [(t', _)] hMem, rfl⟩

/-- What was stored before a download ended was stored before its request was sent, and unless it was invalidated
since, there was an entry then that did not make the download needless. -/
theorem Lawful.known_when_sent {t' : Instant} {n' : CallName} {purpose' : Purpose} {q' : Nat} {e' : Entry}
    (hLawful : Lawful ttl (past ++ (t', .stored n' purpose' q' e') :: later))
    (hApart : Apart (past ++ (t', .stored n' purpose' q' e') :: later))
    (hKept : ¬ Happened later .invalidated)
    (hLoads : progress (past ++ (t', .stored n' purpose' q' e') :: later) n = .loading purpose q) :
    ∃ mid t after, later = mid ++ (t, .sent n purpose q) :: after ∧
      ∃ t'' n'' purpose'' q'' e'', (t'', .stored n'' purpose'' q'' e'') ∈ (t', Fact.stored n' purpose' q' e') :: mid ∧
        content (past ++ (t', .stored n' purpose' q' e') :: mid) = some e'' ∧ ¬ e''.Suits t ttl purpose := by
  obtain ⟨before, t, after, hSplit, hTurn⟩ := hLawful.turn hApart hLoads
  rcases List.append_eq_append_iff.1 hSplit with ⟨mid, rfl, hRest⟩ | ⟨mid, rfl, hRest⟩
  · cases mid with
    | nil => cases (List.cons.inj hRest).1
    | cons first mid =>
      obtain ⟨rfl, rfl⟩ := List.cons.inj hRest
      have hSent : Lawful ttl ((past ++ (t', .stored n' purpose' q' e') :: mid) ++ (t, .sent n purpose q) :: after) := by
        simpa using hLawful
      obtain ⟨t'', n'', purpose'', q'', e'', hMem, hContent⟩ :=
        content_since past t' n' purpose' q' e' fun hEarly => hKept (hEarly.append_left _)
      exact ⟨mid, t, after, rfl, t'', n'', purpose'', q'', e'', hMem, hContent, hSent.allows.2.2 e'' hContent⟩
  · cases mid with
    | nil => cases (List.cons.inj hRest).1
    | cons first mid =>
      obtain ⟨-, rfl⟩ := List.cons.inj hRest
      cases (hTurn (.stored n' purpose' q' e') ⟨t', List.mem_append_right mid (List.mem_cons_self ..)⟩).2

end BearerTokens.KeySetCache
