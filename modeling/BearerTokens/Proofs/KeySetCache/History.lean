import BearerTokens.KeySet.Cache.Basic
import Mathlib.Data.List.Induction
import Mathlib.Data.List.Nodup
import Mathlib.Logic.Function.Basic

/-!
# Histories of lanes

What the history of a lane says on its own: which entry is stored at its end, which sets have been stored,
which requests were sent, and how far each call has got. In a lawful history a call reads a set at most twice,
once in a lookup and once more in a replacement, and gets further with every fact that concerns it.
-/

set_option autoImplicit false

namespace BearerTokens.KeySetCache

open BearerTokens.Http BearerTokens.Time

abbrev History := List (Instant × Fact)

def Happened (h : History) (f : Fact) : Prop := ∃ t, (t, f) ∈ h

theorem Happened.append_left {past : History} {f : Fact} (h : Happened past f) (later : History) :
    Happened (past ++ later) f := by
  obtain ⟨t, hMem⟩ := h
  exact ⟨t, List.mem_append_left _ hMem⟩

theorem happened_append {past later : History} {f : Fact} :
    Happened (past ++ later) f ↔ Happened past f ∨ Happened later f := by
  simp [Happened, exists_or]

theorem happened_snoc {past : History} {t : Instant} {f g : Fact} :
    Happened (past ++ [(t, g)]) f ↔ Happened past f ∨ f = g := by
  simp [Happened, exists_or]

def Fact.content (current : Option Entry) : Fact → Option Entry
  | .stored _ _ _ entry => some entry
  | .invalidated => none
  | _ => current

def content (h : History) : Option Entry :=
  h.foldl (fun current f => f.2.content current) none

def Fact.set? : Fact → Option Stored
  | .stored _ _ _ entry => some entry.stored
  | _ => none

def sets (h : History) : List Stored :=
  h.filterMap (·.2.set?)

def Fact.request? : Fact → Option Nat
  | .sent _ _ request => some request
  | _ => none

def requests (h : History) : List Nat :=
  h.filterMap (·.2.request?)

inductive Progress where
  | absent
  | begun
  | loading (purpose : Purpose) (request : Nat)
  /-- The call has come to a set, known by its number, or to an error. -/
  | read (purpose : Purpose) (result : Except Error Nat)
  | over

def Fact.progress? : Fact → Option (CallName × Progress)
  | .began call => some (call, .begun)
  | .sent call purpose request => some (call, .loading purpose request)
  | .stored call purpose _ entry => some (call, .read purpose (.ok entry.stored.number))
  | .failed call purpose _ e => some (call, .read purpose (.error e))
  | .found call purpose number => some (call, .read purpose (.ok number))
  | .finished call => some (call, .over)
  | .cancelled call => some (call, .over)
  | .replied _ => none
  | .invalidated => none

def Fact.advance (current : CallName → Progress) (f : Fact) : CallName → Progress :=
  match f.progress? with
  | some (n, p) => Function.update current n p
  | none => current

def progress (h : History) : CallName → Progress :=
  h.foldl (fun current f => f.2.advance current) fun _ => .absent

@[simp] theorem content_nil : content [] = none := rfl

@[simp] theorem sets_nil : sets [] = [] := rfl

@[simp] theorem requests_nil : requests [] = [] := rfl

@[simp] theorem progress_nil (n : CallName) : progress [] n = .absent := rfl

theorem content_snoc (h : History) (t : Instant) (f : Fact) :
    content (h ++ [(t, f)]) = f.content (content h) := by
  simp [content]

theorem sets_append (past later : History) : sets (past ++ later) = sets past ++ sets later :=
  List.filterMap_append ..

theorem sets_snoc (h : History) (t : Instant) (f : Fact) : sets (h ++ [(t, f)]) = sets h ++ f.set?.toList := by
  rw [sets_append]
  cases hSet : f.set? <;> simp [sets, hSet]

theorem requests_snoc (h : History) (t : Instant) (f : Fact) :
    requests (h ++ [(t, f)]) = requests h ++ f.request?.toList := by
  unfold requests
  rw [List.filterMap_append]
  cases hRequest : f.request? <;> simp [hRequest]

theorem progress_snoc (h : History) (t : Instant) (f : Fact) :
    progress (h ++ [(t, f)]) = f.advance (progress h) := by
  simp [progress]

section Progress

variable {past : History} {t : Instant} {f : Fact} {n : CallName} {p : Progress}

theorem progress_snoc_self (hf : f.progress? = some (n, p)) : progress (past ++ [(t, f)]) n = p := by
  rw [progress_snoc, Fact.advance, hf]
  exact Function.update_self ..

theorem progress_snoc_other (hf : ∀ p, f.progress? ≠ some (n, p)) :
    progress (past ++ [(t, f)]) n = progress past n := by
  rw [progress_snoc, Fact.advance]
  cases hSome : f.progress? with
  | none => rfl
  | some place =>
    refine Function.update_of_ne ?_ ..
    rintro rfl
    exact hf place.2 hSome

theorem progress_append_of_other {later : History} (hOther : ∀ f p, Happened later f → f.progress? ≠ some (n, p)) :
    progress (past ++ later) n = progress past n := by
  induction later using List.reverseRecOn with
  | nil => rw [List.append_nil]
  | append_singleton later last ih =>
    obtain ⟨t, f⟩ := last
    rw [← List.append_assoc, progress_snoc_other fun p => hOther f p (happened_snoc.2 (.inr rfl))]
    exact ih fun g p hg => hOther g p (happened_snoc.2 (.inl hg))

/-- A call that has come anywhere has come there by the last fact that concerns it. -/
theorem exists_of_progress {h : History} (hProgress : progress h n = p) (hp : p ≠ .absent) :
    ∃ past t f later, h = past ++ (t, f) :: later ∧ f.progress? = some (n, p) := by
  induction h using List.reverseRecOn with
  | nil => exact absurd hProgress.symm hp
  | append_singleton before last ih =>
    obtain ⟨t, f⟩ := last
    by_cases hf : ∃ p', f.progress? = some (n, p')
    · obtain ⟨p', hSome⟩ := hf
      rw [progress_snoc_self hSome] at hProgress
      subst hProgress
      exact ⟨before, t, f, [], rfl, hSome⟩
    · rw [progress_snoc_other fun p' hSome => hf ⟨p', hSome⟩] at hProgress
      obtain ⟨past, t', g, later, rfl, hg⟩ := ih hProgress
      exact ⟨past, t', g, later ++ [(t, f)], by simp, hg⟩

theorem sent_of_loading {h : History} {purpose : Purpose} {q : Nat} (hLoads : progress h n = .loading purpose q) :
    Happened h (.sent n purpose q) := by
  obtain ⟨past, t, f, later, rfl, hf⟩ := exists_of_progress hLoads (by simp)
  cases f with
  | sent call purpose request =>
    cases hf
    exact ⟨t, by simp⟩
  | _ => cases hf

end Progress

theorem mem_sets_iff {h : History} {s : Stored} :
    s ∈ sets h ↔ ∃ n p q e, Happened h (.stored n p q e) ∧ e.stored = s := by
  simp only [sets, List.mem_filterMap, Happened]
  constructor
  · rintro ⟨⟨t, f⟩, hMem, hSet⟩
    cases f with
    | stored n p q e =>
      cases hSet
      exact ⟨n, p, q, e, ⟨t, hMem⟩, rfl⟩
    | _ => cases hSet
  · rintro ⟨n, p, q, e, ⟨t, hMem⟩, rfl⟩
    exact ⟨_, hMem, rfl⟩

theorem mem_requests_iff {h : History} {q : Nat} : q ∈ requests h ↔ ∃ n p, Happened h (.sent n p q) := by
  simp only [requests, List.mem_filterMap, Happened]
  constructor
  · rintro ⟨⟨t, f⟩, hMem, hRequest⟩
    cases f with
    | sent n p q' =>
      cases hRequest
      exact ⟨n, p, t, hMem⟩
    | _ => cases hRequest
  · rintro ⟨n, p, t, hMem⟩
    exact ⟨_, hMem, rfl⟩

def Fact.replaces : Fact → Bool
  | .stored .. => true
  | .invalidated => true
  | _ => false

theorem content_of_not_replaces {f : Fact} (h : f.replaces = false) (current : Option Entry) :
    f.content current = current := by
  cases f with
  | stored n p q e => cases h
  | invalidated => cases h
  | _ => rfl

/-- An entry is the last that a download stored, and it was not removed since. -/
def IsLastEntry (h : History) (e : Entry) : Prop :=
  ∃ past t n p q later, h = past ++ (t, .stored n p q e) :: later ∧ ∀ f, Happened later f → f.replaces = false

theorem content_append_of_quiet {past later : History} (h : ∀ f, Happened later f → f.replaces = false) :
    content (past ++ later) = content past := by
  induction later using List.reverseRecOn with
  | nil => simp
  | append_singleton later last ih =>
    obtain ⟨t, f⟩ := last
    rw [← List.append_assoc, content_snoc, content_of_not_replaces (h f (happened_snoc.2 (.inr rfl)))]
    exact ih fun g hg => h g (happened_snoc.2 (.inl hg))

theorem content_eq_some_iff {h : History} {e : Entry} : content h = some e ↔ IsLastEntry h e := by
  constructor
  · intro hContent
    induction h using List.reverseRecOn with
    | nil => cases hContent
    | append_singleton before last ih =>
      obtain ⟨t, f⟩ := last
      rw [content_snoc] at hContent
      by_cases hQuiet : f.replaces = false
      · rw [content_of_not_replaces hQuiet] at hContent
        obtain ⟨past, t', n, p, q, later, rfl, hLater⟩ := ih hContent
        refine ⟨past, t', n, p, q, later ++ [(t, f)], by simp, fun g hg => ?_⟩
        rcases happened_snoc.1 hg with hg | rfl
        · exact hLater g hg
        · exact hQuiet
      · cases f with
        | stored n p q e' =>
          cases hContent
          exact ⟨before, t, n, p, q, [], rfl, by simp [Happened]⟩
        | invalidated => cases hContent
        | _ => exact absurd rfl hQuiet
  · rintro ⟨past, t, n, p, q, later, rfl, hLater⟩
    rw [List.append_cons, content_append_of_quiet hLater, content_snoc]
    rfl

theorem IsLastEntry.mem_sets {h : History} {e : Entry} (hLast : IsLastEntry h e) : e.stored ∈ sets h := by
  obtain ⟨past, t, n, p, q, later, rfl, -⟩ := hLast
  exact mem_sets_iff.2 ⟨n, p, q, e, ⟨t, by simp⟩, rfl⟩

/-- Whether an entry makes a download needless. -/
def Entry.Suits (e : Entry) (now : Instant) (ttl : Int) : Purpose → Prop
  | .lookup => now.since e.fetchedAt < ttl
  | .replacement stale => e.stored.number ≠ stale

/-- Whether a call is about to read a set: a lookup comes first, and a replacement of the set that the lookup
came to second. -/
def Progress.Seeks : Progress → Purpose → Prop
  | .begun, purpose => purpose = .lookup
  | .read .lookup (.ok number), purpose => purpose = .replacement number
  | _, _ => False

def Progress.Waits (p : Progress) (purpose : Purpose) : Prop :=
  p.Seeks purpose ∨ ∃ request, p = .loading purpose request

/-- What has to be true of the past for a fact to follow it. -/
def Allows (ttl : Int) (past : History) (now : Instant) : Fact → Prop
  | .began call => progress past call = .absent
  | .sent call purpose request =>
    (progress past call).Seeks purpose ∧ request = (requests past).length ∧
      ∀ e, content past = some e → ¬ e.Suits now ttl purpose
  | .replied request => request ∈ requests past
  | .stored call purpose request entry =>
    progress past call = .loading purpose request ∧ entry.stored.number = (sets past).length ∧
      entry.fetchedAt = now
  | .failed call purpose none _ =>
    (progress past call).Seeks purpose ∧ ∀ e, content past = some e → ¬ e.Suits now ttl purpose
  | .failed call purpose (some request) _ => progress past call = .loading purpose request
  | .found call purpose number =>
    (progress past call).Seeks purpose ∧
      ∃ e, content past = some e ∧ e.stored.number = number ∧ e.Suits now ttl purpose
  | .finished call => progress past call = .begun ∨ ∃ purpose r, progress past call = .read purpose r
  | .cancelled call => ∃ purpose, (progress past call).Waits purpose
  | .invalidated => True

/-- Every fact follows what came before it. -/
def Lawful (ttl : Int) (h : History) : Prop :=
  ∀ past t f later, h = past ++ (t, f) :: later → Allows ttl past t f

variable {ttl : Int} {h past later : History} {t now : Instant} {f : Fact} {n : CallName}

theorem lawful_nil : Lawful ttl [] := by
  intro past t f later hSplit
  simp at hSplit

theorem Lawful.split (hLawful : Lawful ttl (past ++ later)) : Lawful ttl past := by
  rintro before t f after rfl
  exact hLawful before t f (after ++ later) (by simp)

theorem Lawful.snoc (hLawful : Lawful ttl past) (hAllowed : Allows ttl past now f) :
    Lawful ttl (past ++ [(now, f)]) := by
  intro before t g after hSplit
  rcases List.eq_nil_or_concat after with rfl | ⟨after, last, rfl⟩
  · obtain ⟨rfl, hLast⟩ := List.append_inj' hSplit rfl
    cases hLast
    exact hAllowed
  · have hWhole : past ++ [(now, f)] = (before ++ (t, g) :: after) ++ [last] := by
      rw [hSplit]
      simp
    obtain ⟨rfl, -⟩ := List.append_inj' hWhole rfl
    exact hLawful before t g after rfl

theorem Lawful.allows (hLawful : Lawful ttl (past ++ (t, f) :: later)) : Allows ttl past t f :=
  hLawful past t f later rfl

theorem Lawful.sets_number (hLawful : Lawful ttl h) :
    (sets h).map (·.number) = List.range (sets h).length := by
  induction h using List.reverseRecOn with
  | nil => rfl
  | append_singleton past last ih =>
    obtain ⟨t, f⟩ := last
    have hPast := ih hLawful.split
    rw [sets_snoc, List.map_append, hPast, List.length_append]
    cases f with
    | stored n p q e =>
      obtain ⟨-, hNumber, -⟩ := hLawful.allows
      simp [Fact.set?, hNumber, List.range_succ]
    | _ => simp [Fact.set?]

theorem Lawful.number_lt (hLawful : Lawful ttl h) {s : Stored} (hs : s ∈ sets h) : s.number < (sets h).length := by
  rw [← List.mem_range, ← hLawful.sets_number]
  exact List.mem_map_of_mem hs

theorem Lawful.set_unique (hLawful : Lawful ttl h) {s s' : Stored} (hs : s ∈ sets h) (hs' : s' ∈ sets h)
    (hNumber : s.number = s'.number) : s = s' := by
  have hNodup : ((sets h).map (·.number)).Nodup := by
    rw [hLawful.sets_number]
    exact List.nodup_range
  exact List.inj_on_of_nodup_map hNodup hs hs' hNumber

/-- The entry is the set that was stored last. -/
theorem Lawful.number_of_content (hLawful : Lawful ttl h) {e : Entry} (hContent : content h = some e) :
    e.stored.number + 1 = (sets h).length := by
  obtain ⟨past, t, n, p, q, later, rfl, hLater⟩ := content_eq_some_iff.1 hContent
  obtain ⟨-, hNumber, -⟩ := hLawful.allows
  have hNone : sets later = [] := by
    refine List.eq_nil_iff_forall_not_mem.2 fun s hs => ?_
    obtain ⟨n, p, q, e', hStored, -⟩ := mem_sets_iff.1 hs
    cases hLater _ hStored
  rw [List.append_cons, sets_append, sets_snoc, hNone, hNumber]
  simp [Fact.set?]

/-- A set with a higher number than any of the past is stored later. -/
theorem Lawful.stored_later (hLawful : Lawful ttl (past ++ later)) {s : Stored} (hs : s ∈ sets (past ++ later))
    (hNumber : (sets past).length ≤ s.number) : s ∈ sets later := by
  rw [sets_append, List.mem_append] at hs
  refine hs.resolve_left fun hPast => ?_
  have hLess := hLawful.split.number_lt hPast
  omega

theorem Lawful.requests_eq (hLawful : Lawful ttl h) : requests h = List.range (requests h).length := by
  induction h using List.reverseRecOn with
  | nil => rfl
  | append_singleton past last ih =>
    obtain ⟨t, f⟩ := last
    have hPast := ih hLawful.split
    cases f with
    | sent n p q =>
      obtain ⟨-, hNumber, -⟩ := hLawful.allows
      rw [requests_snoc, List.length_append]
      simp only [Fact.request?, Option.toList_some, List.length_singleton, List.range_succ, hNumber]
      rw [← hPast]
    | _ => simpa [requests_snoc, Fact.request?] using hPast

theorem Lawful.request_lt (hLawful : Lawful ttl h) {p : Purpose} {q : Nat} (hSent : Happened h (.sent n p q)) :
    q < (requests h).length := by
  rw [← List.mem_range, ← hLawful.requests_eq]
  exact mem_requests_iff.2 ⟨n, p, hSent⟩

theorem Lawful.sender_unique (hLawful : Lawful ttl h) {n' : CallName} {p p' : Purpose} {q : Nat}
    (hSent : Happened h (.sent n p q)) (hSent' : Happened h (.sent n' p' q)) : n = n' ∧ p = p' := by
  induction h using List.reverseRecOn with
  | nil =>
    obtain ⟨t, hMem⟩ := hSent
    cases hMem
  | append_singleton past last ih =>
    obtain ⟨t, f⟩ := last
    have hNew {m : CallName} {p : Purpose} (hLast : Fact.sent m p q = f) {m' : CallName} {p' : Purpose} :
        ¬ Happened past (.sent m' p' q) := by
      subst hLast
      obtain ⟨-, hNumber, -⟩ := hLawful.allows
      intro hOld
      have hLess := hLawful.split.request_lt hOld
      omega
    rcases happened_snoc.1 hSent with hOld | hLast
    · rcases happened_snoc.1 hSent' with hOld' | hLast'
      · exact ih hLawful.split hOld hOld'
      · exact absurd hOld (hNew hLast')
    · rcases happened_snoc.1 hSent' with hOld' | hLast'
      · exact absurd hOld' (hNew hLast)
      · cases hLast.trans hLast'.symm
        exact ⟨rfl, rfl⟩

def Progress.rank : Progress → Nat
  | .absent => 0
  | .begun => 1
  | .loading .lookup _ => 2
  | .read .lookup _ => 3
  | .loading (.replacement _) _ => 4
  | .read (.replacement _) _ => 5
  | .over => 6

theorem Fact.rank_pos (f : Fact) {p : Progress} (hf : f.progress? = some (n, p)) : 0 < p.rank := by
  have hLoads (purpose : Purpose) (q : Nat) : 0 < (Progress.loading purpose q).rank := by
    cases purpose <;> simp [Progress.rank]
  have hRead (purpose : Purpose) (r : Except Error Nat) : 0 < (Progress.read purpose r).rank := by
    cases purpose <;> simp [Progress.rank]
  cases f with
  | sent call purpose q =>
    cases hf
    exact hLoads purpose q
  | stored call purpose q e =>
    cases hf
    exact hRead purpose _
  | failed call purpose q e =>
    cases hf
    exact hRead purpose _
  | found call purpose number =>
    cases hf
    exact hRead purpose _
  | replied q => cases hf
  | invalidated => cases hf
  | _ =>
    cases hf
    simp [Progress.rank]

theorem Progress.Seeks.cases {p : Progress} {purpose : Purpose} (h : p.Seeks purpose) :
    (p = .begun ∧ purpose = .lookup) ∨
      ∃ number, p = .read .lookup (.ok number) ∧ purpose = .replacement number := by
  unfold Progress.Seeks at h
  split at h
  · exact .inl ⟨rfl, h⟩
  · exact .inr ⟨_, rfl, h⟩
  · exact h.elim

theorem Allows.rank_lt {p : Progress} (hAllowed : Allows ttl past now f) (hf : f.progress? = some (n, p)) :
    (progress past n).rank < p.rank := by
  have hSeeks {purpose : Purpose} (h : (progress past n).Seeks purpose) (q : Nat) (r : Except Error Nat) :
      (progress past n).rank < (Progress.loading purpose q).rank ∧
        (progress past n).rank < (Progress.read purpose r).rank := by
    rcases h.cases with ⟨hBegun, rfl⟩ | ⟨number, hRead, rfl⟩
    · simp [hBegun, Progress.rank]
    · simp [hRead, Progress.rank]
  have hLoading {purpose : Purpose} {q : Nat} (h : progress past n = .loading purpose q) (r : Except Error Nat) :
      (progress past n).rank < (Progress.read purpose r).rank := by
    cases purpose <;> simp [h, Progress.rank]
  cases f with
  | began call =>
    cases hf
    simp [show progress past n = .absent from hAllowed, Progress.rank]
  | sent call purpose q =>
    cases hf
    exact (hSeeks hAllowed.1 q (.ok 0)).1
  | stored call purpose q e =>
    cases hf
    exact hLoading hAllowed.1 _
  | failed call purpose request e =>
    cases hf
    cases request with
    | none => exact (hSeeks hAllowed.1 0 _).2
    | some q => exact hLoading hAllowed _
  | found call purpose number =>
    cases hf
    exact (hSeeks hAllowed.1 0 _).2
  | finished call =>
    cases hf
    rcases hAllowed with hBegun | ⟨purpose, r, hRead⟩
    · simp [hBegun, Progress.rank]
    · cases purpose <;> simp [hRead, Progress.rank]
  | cancelled call =>
    cases hf
    obtain ⟨purpose, hWaits | ⟨q, hLoads⟩⟩ := hAllowed
    · rcases hWaits.cases with ⟨hBegun, -⟩ | ⟨number, hRead, -⟩
      · simp [hBegun, Progress.rank]
      · simp [hRead, Progress.rank]
    · cases purpose <;> simp [hLoads, Progress.rank]
  | replied q => cases hf
  | invalidated => cases hf

theorem Lawful.rank_le (hLawful : Lawful ttl (past ++ later)) (n : CallName) :
    (progress past n).rank ≤ (progress (past ++ later) n).rank := by
  induction later using List.reverseRecOn with
  | nil => simp
  | append_singleton later last ih =>
    obtain ⟨t, f⟩ := last
    rw [← List.append_assoc] at hLawful ⊢
    have hBefore := ih hLawful.split
    by_cases hf : ∃ p, f.progress? = some (n, p)
    · obtain ⟨p, hSome⟩ := hf
      have hRaised := hLawful.allows.rank_lt hSome
      rw [progress_snoc_self hSome]
      omega
    · rwa [progress_snoc_other fun p hSome => hf ⟨p, hSome⟩]

/-- A later fact finds its call less far than it leads it. -/
theorem Lawful.rank_lt_of_later {p : Progress} (hLawful : Lawful ttl (past ++ later)) (hMem : (t, f) ∈ later)
    (hf : f.progress? = some (n, p)) : (progress past n).rank < p.rank := by
  obtain ⟨mid, after, rfl⟩ := List.append_of_mem hMem
  have hWhole : Lawful ttl ((past ++ mid) ++ (t, f) :: after) := by simpa using hLawful
  exact Nat.lt_of_le_of_lt (hWhole.split.rank_le n) (hWhole.allows.rank_lt hf)

theorem Lawful.rank_le_of_mem {p : Progress} (hLawful : Lawful ttl h) (hMem : (t, f) ∈ h)
    (hf : f.progress? = some (n, p)) : p.rank ≤ (progress h n).rank := by
  obtain ⟨past, later, rfl⟩ := List.append_of_mem hMem
  have hWhole : Lawful ttl ((past ++ [(t, f)]) ++ later) := by simpa using hLawful
  have hRank := hWhole.rank_le n
  rw [progress_snoc_self hf] at hRank
  simpa using hRank

/-- A call gets only once as far as it gets. -/
theorem Lawful.fact_unique (hLawful : Lawful ttl h) {t' : Instant} {f' : Fact} {p p' : Progress}
    (hMem : (t, f) ∈ h) (hMem' : (t', f') ∈ h) (hf : f.progress? = some (n, p))
    (hf' : f'.progress? = some (n, p')) (hRank : p.rank = p'.rank) : (t, f) = (t', f') := by
  obtain ⟨past, later, rfl⟩ := List.append_of_mem hMem
  rcases List.mem_append.1 hMem' with hPast | hHere
  · have hBelow := hLawful.split.rank_le_of_mem hPast hf'
    have hAbove := hLawful.allows.rank_lt hf
    omega
  · rcases List.mem_cons.1 hHere with hSame | hLater
    · exact hSame.symm
    · have hWhole : Lawful ttl ((past ++ [(t, f)]) ++ later) := by simpa using hLawful
      have hAbove := hWhole.rank_lt_of_later hLater hf'
      rw [progress_snoc_self hf] at hAbove
      omega

def Fact.sends (n : CallName) : Fact → Bool
  | .sent call _ _ => call == n
  | _ => false

/-- A call sends a request for its lookup and one for its replacement. -/
theorem Lawful.countP_sends (hLawful : Lawful ttl h) (n : CallName) :
    h.countP (·.2.sends n) ≤ min ((progress h n).rank / 2) 2 := by
  induction h using List.reverseRecOn with
  | nil => simp
  | append_singleton past last ih =>
    obtain ⟨t, f⟩ := last
    have hPast := ih hLawful.split
    have hRank := hLawful.rank_le n
    rw [List.countP_append, List.countP_singleton]
    by_cases hSends : f.sends n = true
    · cases f with
      | sent call purpose q =>
        obtain rfl : call = n := beq_iff_eq.1 hSends
        rw [progress_snoc_self rfl]
        simp only [hSends, if_true]
        rcases hLawful.allows.1.cases with ⟨hBegun, rfl⟩ | ⟨number, hRead, rfl⟩
        · simp only [hBegun, Progress.rank] at hPast ⊢
          omega
        · simp only [hRead, Progress.rank] at hPast ⊢
          omega
      | _ => cases hSends
    · simp only [hSends]
      simp only [Bool.false_eq_true, if_false]
      omega

end BearerTokens.KeySetCache
