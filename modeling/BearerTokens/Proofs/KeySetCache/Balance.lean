import BearerTokens.Proofs.KeySetCache.Reclaim
import BearerTokens.Proofs.KeySetCache.Turns

/-!
# The balance of requests

Every request that was sent has been lost, has brought a set, or is under way. While nothing but fetches goes on and
the clock stands still, the first request that brings a set is the last.
-/

set_option autoImplicit false

namespace BearerTokens.KeySetCache

open BearerTokens.Http BearerTokens.Time

variable {ttl : Int} {h past later : History} {n : CallName} {purpose : Purpose} {q : Nat}

def Fact.losses (current : List (CallName × Nat)) : Fact → Nat
  | .failed _ _ (some _) _ => 1
  | .cancelled call => current.countP (·.1 = call)
  | _ => 0

def lost (h : History) : Nat :=
  (h.foldl (fun s f => (f.2.downloads s.1, s.2 + f.2.losses s.1)) ([], 0)).2

theorem lost_snoc (h : History) (t : Instant) (f : Fact) : lost (h ++ [(t, f)]) = lost h + f.losses (downloads h) := by
  have hCurrent : (h.foldl (fun s f => (f.2.downloads s.1, s.2 + f.2.losses s.1)) ([], 0)).1 = downloads h := by
    induction h using List.reverseRecOn with
    | nil => rfl
    | append_singleton past last ih =>
      obtain ⟨t, f⟩ := last
      rw [downloads_snoc, ← ih]
      simp
  unfold lost
  rw [List.foldl_append, ← hCurrent]
  rfl

theorem downloads_append (hNone : downloads past = []) (later : History) :
    downloads (past ++ later) = downloads later := by
  unfold downloads at hNone ⊢
  rw [List.foldl_append, hNone]

/-- Every request has been lost, has brought a set, or is under way. -/
theorem Lawful.requests_balance (hLawful : Lawful ttl (past ++ later)) (hApart : Apart (past ++ later))
    (hNone : downloads past = []) :
    (requests later).length = lost later + (sets later).length + (downloads later).length := by
  induction later using List.reverseRecOn with
  | nil => rfl
  | append_singleton later last ih =>
    obtain ⟨t, f⟩ := last
    rw [← List.append_assoc] at hLawful hApart
    have hBefore := ih hLawful.split hApart.split
    have hSame := downloads_append hNone later
    rw [requests_snoc, sets_snoc, lost_snoc, downloads_snoc, List.length_append, List.length_append]
    -- a download that ends is the only one
    have hAlone {call : CallName} {purpose : Purpose} {q : Nat}
        (hLoads : progress (past ++ later) call = .loading purpose q) : downloads later = [(call, q)] := by
      rw [← hSame]
      exact hLawful.split.downloads_eq hApart.split hLoads
    have hAllowed := hLawful.allows
    cases f with
    | sent call purpose q =>
      simp [Fact.request?, Fact.set?, Fact.losses, Fact.downloads]
      omega
    | stored call purpose q e =>
      have hCurrent := hAlone hAllowed.1
      simp [Fact.request?, Fact.set?, Fact.losses, Fact.downloads, without, hCurrent] at hBefore ⊢
      omega
    | failed call purpose request e =>
      cases request with
      | none => simpa [Fact.request?, Fact.set?, Fact.losses, Fact.downloads, without] using hBefore
      | some q =>
        have hCurrent := hAlone hAllowed
        simp [Fact.request?, Fact.set?, Fact.losses, Fact.downloads, without, hCurrent] at hBefore ⊢
        omega
    | cancelled call =>
      have hSplit := List.length_eq_countP_add_countP (fun d : CallName × Nat => decide (d.1 = call))
        (l := downloads later)
      simp [Fact.request?, Fact.set?, Fact.losses, Fact.downloads, ← List.countP_eq_length_filter] at hSplit ⊢
      omega
    | _ => simpa [Fact.request?, Fact.set?, Fact.losses, Fact.downloads] using hBefore

theorem happened_cons {t : Instant} {f g : Fact} : Happened ((t, g) :: later) f ↔ f = g ∨ Happened later f := by
  simp [Happened, exists_or]

def Fact.purpose? : Fact → Option (CallName × Purpose)
  | .sent call purpose _ => some (call, purpose)
  | .stored call purpose _ _ => some (call, purpose)
  | .failed call purpose _ _ => some (call, purpose)
  | .found call purpose _ => some (call, purpose)
  | _ => none

/-- A stretch of time with fetches only, over which the clock stands still. -/
structure Fetching (h : History) (now : Instant) : Prop where
  still : ∀ p ∈ h, p.1 = now
  kept : ¬ Happened h .invalidated
  lookups : ∀ f n purpose, Happened h f → f.purpose? = some (n, purpose) → purpose = .lookup

theorem Fetching.of_sublist {now : Instant} {h' : History} (hFetching : Fetching h now) (hPart : h' ⊆ h) :
    Fetching h' now where
  still p hMem := hFetching.still p (hPart hMem)
  kept := fun ⟨t, hMem⟩ => hFetching.kept ⟨t, hPart hMem⟩
  lookups f n purpose := fun ⟨t, hMem⟩ => hFetching.lookups f n purpose ⟨t, hPart hMem⟩

theorem downloads_eq_nil_of_quiet (hNone : downloads past = [])
    (hQuiet : ∀ f, Happened later f → f.isOfDownload = false) : downloads (past ++ later) = [] := by
  induction later using List.reverseRecOn with
  | nil => rwa [List.append_nil]
  | append_singleton later last ih =>
    obtain ⟨t, f⟩ := last
    have hLast := hQuiet f (happened_snoc.2 (.inr rfl))
    rw [← List.append_assoc, downloads_snoc, ih fun g hg => hQuiet g (hg.append_left _)]
    cases f with
    | sent call purpose q => cases hLast
    | stored call purpose q e => cases hLast
    | failed call purpose q e => cases hLast
    | _ => rfl

theorem Lawful.downloads_of_stored {t : Instant} {e : Entry}
    (hLawful : Lawful ttl (past ++ [(t, .stored n purpose q e)]))
    (hApart : Apart (past ++ [(t, .stored n purpose q e)])) :
    downloads (past ++ [(t, .stored n purpose q e)]) = [] := by
  rw [downloads_snoc, hLawful.split.downloads_eq hApart.split hLawful.allows.1]
  simp [Fact.downloads, without]

/-- Once a set has been stored, it is young enough for all other fetches, and no download begins or ends. -/
theorem Lawful.quiet_after_stored {t now : Instant} {e : Entry} (hTtl : 0 < ttl)
    (hLawful : Lawful ttl (past ++ (t, .stored n purpose q e) :: later))
    (hApart : Apart (past ++ (t, .stored n purpose q e) :: later))
    (hFetching : Fetching ((t, .stored n purpose q e) :: later) now) :
    ∀ f, Happened later f → f.isOfDownload = false := by
  induction later using List.reverseRecOn with
  | nil =>
    rintro f ⟨t', hMem⟩
    cases hMem
  | append_singleton later last ih =>
    obtain ⟨t', f⟩ := last
    rw [← List.cons_append, ← List.append_assoc] at hLawful hApart
    have hEarlier : Fetching ((t, .stored n purpose q e) :: later) now :=
      hFetching.of_sublist fun p hMem => List.mem_append_left [(t', f)] hMem
    have hQuiet := ih hLawful.split hApart.split hEarlier
    have hStored : Lawful ttl ((past ++ [(t, .stored n purpose q e)]) ++ later) := by simpa using hLawful.split
    have hStoredApart : Apart ((past ++ [(t, .stored n purpose q e)]) ++ later) := by simpa using hApart.split
    have hNone : downloads (past ++ (t, .stored n purpose q e) :: later) = [] := by
      rw [List.append_cons]
      exact downloads_eq_nil_of_quiet (hStored.split.downloads_of_stored hStoredApart.split) hQuiet
    -- the entry was stored at this very instant
    obtain ⟨s, m, p, r, known, hMem, hContent⟩ :=
      content_since past t n purpose q e fun hTold => hEarlier.kept (happened_cons.2 (.inr hTold))
    have hSuits : known.Suits now ttl .lookup := by
      have hFetched : known.fetchedAt = now :=
        (hLawful.split.fetchedAt_eq (List.mem_append_right past hMem)).trans (hEarlier.still _ hMem)
      show now.nanos - known.fetchedAt.nanos < ttl
      rw [hFetched]
      omega
    have hNotLoading {m : CallName} {p : Purpose} {r : Nat}
        (hLoads : progress (past ++ (t, .stored n purpose q e) :: later) m = .loading p r) : False := by
      cases hNone.symm.trans (hLawful.split.downloads_eq hApart.split hLoads)
    have hNow : t' = now := hFetching.still (t', f) (by simp)
    have hAllowed := hLawful.allows
    rw [hNow] at hAllowed
    have hHere : Happened ((t, .stored n purpose q e) :: (later ++ [(t', f)])) f := ⟨t', by simp⟩
    intro g hg
    rcases happened_snoc.1 hg with hOld | rfl
    · exact hQuiet g hOld
    · cases g with
      | sent m p r =>
        obtain rfl := hFetching.lookups _ m p hHere rfl
        exact absurd hSuits (hAllowed.2.2 known hContent)
      | stored m p r e' => exact (hNotLoading hAllowed.1).elim
      | failed m p request e' =>
        cases request with
        | none =>
          obtain rfl := hFetching.lookups _ m p hHere rfl
          exact absurd hSuits (hAllowed.2 known hContent)
        | some r => exact (hNotLoading hAllowed).elim
      | _ => rfl

theorem lost_of_quiet (hNone : downloads past = []) (hQuiet : ∀ f, Happened later f → f.isOfDownload = false) :
    lost (past ++ later) = lost past ∧ sets later = [] ∧ requests later = [] := by
  induction later using List.reverseRecOn with
  | nil => exact ⟨by rw [List.append_nil], rfl, rfl⟩
  | append_singleton later last ih =>
    obtain ⟨t, f⟩ := last
    have hBefore : ∀ g, Happened later g → g.isOfDownload = false := fun g hg => hQuiet g (hg.append_left _)
    have hLast := hQuiet f (happened_snoc.2 (.inr rfl))
    obtain ⟨hLost, hSets, hRequests⟩ := ih hBefore
    rw [← List.append_assoc, lost_snoc, sets_snoc, requests_snoc, downloads_eq_nil_of_quiet hNone hBefore, hLost,
      hSets, hRequests]
    cases f with
    | sent call purpose q => cases hLast
    | stored call purpose q e => cases hLast
    | failed call purpose q e => cases hLast
    | _ => exact ⟨rfl, rfl, rfl⟩

end BearerTokens.KeySetCache
