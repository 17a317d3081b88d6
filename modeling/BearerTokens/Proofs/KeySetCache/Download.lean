import BearerTokens.Proofs.KeySetCache.Tie

/-!
# Downloads on record

Which downloads are under way, as the history of a lane has it: those whose request has been sent and that have
neither stored a set nor failed nor been given up. They are the downloads of the calls that are tied to a guard
with a request, and no two of them overlap.
-/

set_option autoImplicit false

namespace BearerTokens.KeySetCache

open BearerTokens.Http BearerTokens.Time

def without (name : CallName) (request : Option Nat) (current : List (CallName × Nat)) :
    List (CallName × Nat) :=
  match request with
  | none => current
  | some q => current.filter (· ≠ (name, q))

def Fact.downloads (current : List (CallName × Nat)) : Fact → List (CallName × Nat)
  | .sent call _ request => current ++ [(call, request)]
  | .stored call _ request _ => without call (some request) current
  | .failed call _ request _ => without call request current
  | .cancelled call => current.filter (·.1 ≠ call)
  | _ => current

/-- The downloads under way at the end of a history, each with its call and its request: sent, and neither
stored nor failed, nor given up. -/
def downloads (h : List (Instant × Fact)) : List (CallName × Nat) :=
  h.foldl (fun current f => f.2.downloads current) []

@[simp] theorem downloads_nil : downloads [] = [] := rfl

theorem downloads_snoc (h : List (Instant × Fact)) (t : Instant) (f : Fact) :
    downloads (h ++ [(t, f)]) = f.downloads (downloads h) := by
  simp [downloads]

/-- The downloads on record are those of the calls that are tied with a request, never two at a time, and
nothing else waits for an answer. -/
structure Loaded (h : List (Instant × Fact)) (transport : Transport) (tie : CallName → Option Tie) : Prop where
  single : ∀ past, past <+: h → (downloads past).length ≤ 1
  listed : ∀ n q, (n, q) ∈ downloads h ↔ ∃ g, tie n = some ⟨g, some q⟩
  waiting : ∀ q, transport.state? q = some .waiting → ∃ n g, tie n = some ⟨g, some q⟩

variable {h : List (Instant × Fact)} {transport transport' : Transport} {tie : CallName → Option Tie}
  {t : Instant} {f : Fact} {name : CallName} {g : Nat}

theorem loaded_empty : Loaded [] .empty fun _ => none where
  single past hPast := by
    rw [List.prefix_nil.1 hPast]
    exact Nat.zero_le _
  listed := by simp
  waiting q := by simp [Http.Transport.state?, Http.Transport.empty]

theorem Loaded.single_snoc (hLoaded : Loaded h transport tie) (hLength : (f.downloads (downloads h)).length ≤ 1)
    (past : List (Instant × Fact)) (hPast : past <+: h ++ [(t, f)]) : (downloads past).length ≤ 1 := by
  rcases List.prefix_concat_iff.1 hPast with rfl | hEarlier
  · rwa [downloads_snoc]
  · exact hLoaded.single past hEarlier

theorem Loaded.length_le (hLoaded : Loaded h transport tie) : (downloads h).length ≤ 1 :=
  hLoaded.single h List.prefix_rfl

theorem Loaded.frame (hLoaded : Loaded h transport tie) (hFact : ∀ current, f.downloads current = current)
    (hWaiting : ∀ q, transport'.state? q = some .waiting → transport.state? q = some .waiting) :
    Loaded (h ++ [(t, f)]) transport' tie where
  single := hLoaded.single_snoc (by rw [hFact]; exact hLoaded.length_le)
  listed n q := by
    rw [downloads_snoc, hFact]
    exact hLoaded.listed n q
  waiting q hq := hLoaded.waiting q (hWaiting q hq)

theorem Loaded.enter (hLoaded : Loaded h transport tie) (hNew : tie name = none) :
    Loaded h transport (Function.update tie name (some ⟨g, none⟩)) := by
  have hSame (n : CallName) (g' q : Nat) :
      Function.update tie name (some ⟨g, none⟩) n = some ⟨g', some q⟩ ↔ tie n = some ⟨g', some q⟩ := by
    by_cases hn : n = name
    · subst hn
      simp [hNew]
    · rw [Function.update_of_ne hn]
  constructor
  · exact hLoaded.single
  · simpa only [hSame] using hLoaded.listed
  · simpa only [hSame] using hLoaded.waiting

/-- A call is no longer tied, and its download, if there was one, has ended. -/
theorem Loaded.remove (hLoaded : Loaded h transport tie)
    (hFact : ∀ n q, (n, q) ∈ f.downloads (downloads h) ↔ (n, q) ∈ downloads h ∧ n ≠ name)
    (hLength : (f.downloads (downloads h)).length ≤ (downloads h).length)
    (hWaiting : ∀ q, transport'.state? q = some .waiting →
      transport.state? q = some .waiting ∧ ∀ g, tie name ≠ some ⟨g, some q⟩) :
    Loaded (h ++ [(t, f)]) transport' (Function.update tie name none) where
  single := hLoaded.single_snoc (Nat.le_trans hLength hLoaded.length_le)
  listed n q := by
    rw [downloads_snoc, hFact, hLoaded.listed]
    simp only [update_tie_eq_some_iff, reduceCtorEq, and_false, false_or]
    rw [exists_and_left, and_comm]
  waiting q hq := by
    obtain ⟨hOld, hOther⟩ := hWaiting q hq
    obtain ⟨n, g, hTie⟩ := hLoaded.waiting q hOld
    refine ⟨n, g, update_tie_eq_some_iff.2 (.inr ⟨?_, hTie⟩)⟩
    rintro rfl
    exact hOther g hTie

/-- A call goes with the result of its download, or without having made one. -/
theorem Loaded.leave (hLoaded : Loaded h transport tie) {request : Option Nat}
    (hTie : tie name = some ⟨g, request⟩)
    (hFact : ∀ current, f.downloads current = without name request current)
    (hAnswered : ∀ q, request = some q → transport.state? q ≠ some .waiting) :
    Loaded (h ++ [(t, f)]) transport (Function.update tie name none) := by
  -- what is on record of the call is the download that its tie shows
  have hOwn {q : Nat} (hMem : (name, q) ∈ downloads h) : request = some q := by
    obtain ⟨g', hTie'⟩ := (hLoaded.listed name q).1 hMem
    rw [hTie] at hTie'
    cases hTie'
    rfl
  refine hLoaded.remove ?_ ?_ ?_
  · intro n q
    rw [hFact]
    cases request with
    | none =>
      refine ⟨fun hMem => ⟨hMem, ?_⟩, And.left⟩
      rintro rfl
      cases hOwn hMem
    | some q' =>
      simp only [without, List.mem_filter, decide_eq_true_eq, ne_eq, Prod.mk.injEq]
      refine and_congr_right fun hMem => not_congr ⟨And.left, ?_⟩
      rintro rfl
      exact ⟨rfl, (Option.some.inj (hOwn hMem)).symm⟩
  · rw [hFact]
    cases request with
    | none => exact Nat.le_refl _
    | some q => exact List.length_filter_le _ _
  · intro q hq
    refine ⟨hq, fun g' hTie' => hAnswered q ?_ hq⟩
    rw [hTie] at hTie'
    cases hTie'
    rfl

theorem Loaded.cancel (hLoaded : Loaded h transport tie)
    (hWaiting : ∀ q, transport'.state? q = some .waiting →
      transport.state? q = some .waiting ∧ ∀ g, tie name ≠ some ⟨g, some q⟩) :
    Loaded (h ++ [(t, .cancelled name)]) transport' (Function.update tie name none) := by
  refine hLoaded.remove ?_ ?_ hWaiting
  · intro n q
    simp [Fact.downloads]
  · exact List.length_filter_le _ _

theorem Loaded.send (hLoaded : Loaded h transport tie) (hNone : downloads h = []) {purpose : Purpose} {q : Nat}
    (hWaiting : ∀ q', transport'.state? q' = some .waiting → q' = q ∨ transport.state? q' = some .waiting) :
    Loaded (h ++ [(t, .sent name purpose q)]) transport'
      (Function.update tie name (some ⟨g, some q⟩)) where
  single := hLoaded.single_snoc (by simp [Fact.downloads, hNone])
  listed n q' := by
    -- nothing was under way, so the new download is the only one
    have hOld (g' : Nat) : tie n ≠ some ⟨g', some q'⟩ := fun hTie => by
      have hMem := (hLoaded.listed n q').2 ⟨g', hTie⟩
      rw [hNone] at hMem
      cases hMem
    rw [downloads_snoc]
    simp only [Fact.downloads, hNone, List.nil_append, List.mem_singleton, Prod.mk.injEq,
      update_tie_eq_some_iff, hOld, and_false, or_false]
    constructor
    · rintro ⟨rfl, rfl⟩
      exact ⟨g, rfl, rfl⟩
    · rintro ⟨g', rfl, ⟨⟩⟩
      exact ⟨rfl, rfl⟩
  waiting q' hq := by
    rcases hWaiting q' hq with rfl | hOld
    · exact ⟨name, g, by rw [Function.update_self]⟩
    · obtain ⟨n, g', hTie⟩ := hLoaded.waiting q' hOld
      have hMem := (hLoaded.listed n q').2 ⟨g', hTie⟩
      rw [hNone] at hMem
      cases hMem

end BearerTokens.KeySetCache
