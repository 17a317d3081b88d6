import BearerTokens.Token.Cache.Basic
import Mathlib.Data.List.Induction

/-!
# Histories of token caches

What the history of a cache says on its own: which exchange is under way at its end, which token is held, and
which facts may follow which. In a lawful history an exchange is begun only when all before it are settled.
-/

set_option autoImplicit false

namespace BearerTokens.TokenCache

open BearerTokens.Http BearerTokens.Time

def Happened (h : History) (f : Fact) : Prop := ∃ t, (t, f) ∈ h

@[simp] theorem happened_nil (f : Fact) : ¬ Happened [] f := by
  rintro ⟨_, h⟩
  cases h

@[simp] theorem happened_append {past later : History} {f : Fact} :
    Happened (past ++ later) f ↔ Happened past f ∨ Happened later f := by
  simp [Happened, exists_or]

@[simp] theorem happened_cons {t : Instant} {g f : Fact} {later : History} :
    Happened ((t, g) :: later) f ↔ f = g ∨ Happened later f := by
  simp [Happened, exists_or]

def Begun (h : History) (exchange : Nat) : Prop := ∃ caller, Happened h (.started caller exchange)

def Settled (h : History) (exchange : Nat) : Prop := ∃ result, Happened h (.settled exchange result)

/-- An exchange without a result; one that broke stays so for ever. -/
def Unsettled (h : History) (exchange : Nat) : Prop := Begun h exchange ∧ ¬ Settled h exchange

@[simp] theorem begun_append {past later : History} {exchange : Nat} :
    Begun (past ++ later) exchange ↔ Begun past exchange ∨ Begun later exchange := by
  simp [Begun, exists_or]

@[simp] theorem begun_cons {t : Instant} {f : Fact} {later : History} {exchange : Nat} :
    Begun ((t, f) :: later) exchange ↔ (∃ caller, f = .started caller exchange) ∨ Begun later exchange := by
  simp [Begun, exists_or, eq_comm]

@[simp] theorem not_begun_nil (exchange : Nat) : ¬ Begun [] exchange := by
  simp [Begun]

@[simp] theorem settled_append {past later : History} {exchange : Nat} :
    Settled (past ++ later) exchange ↔ Settled past exchange ∨ Settled later exchange := by
  simp [Settled, exists_or]

@[simp] theorem settled_cons {t : Instant} {f : Fact} {later : History} {exchange : Nat} :
    Settled ((t, f) :: later) exchange ↔
      (∃ result, f = .settled exchange result) ∨ Settled later exchange := by
  simp [Settled, exists_or, eq_comm]

@[simp] theorem not_settled_nil (exchange : Nat) : ¬ Settled [] exchange := by
  simp [Settled]

def Fact.flight (current : Option Nat) : Fact → Option Nat
  | .started _ exchange => some exchange
  | .settled .. => none
  | .released => none
  | _ => current

def underWay (h : History) : Option Nat :=
  h.foldl (fun current f => f.2.flight current) none

def Fact.content (current : Option HeldToken) : Fact → Option HeldToken
  | .settled _ (.ok token) => some token
  | .cleared => none
  | .released => none
  | _ => current

def held (h : History) : Option HeldToken :=
  h.foldl (fun current f => f.2.content current) none

@[simp] theorem underWay_nil : underWay [] = none := rfl

@[simp] theorem held_nil : held [] = none := rfl

theorem underWay_snoc (h : History) (t : Instant) (f : Fact) :
    underWay (h ++ [(t, f)]) = f.flight (underWay h) := by
  simp [underWay]

theorem held_snoc (h : History) (t : Instant) (f : Fact) :
    held (h ++ [(t, f)]) = f.content (held h) := by
  simp [held]

theorem begun_of_underWay {h : History} {exchange : Nat} (hWay : underWay h = some exchange) :
    Begun h exchange := by
  induction h using List.reverseRecOn with
  | nil => cases hWay
  | append_singleton past last ih =>
    obtain ⟨t, f⟩ := last
    rw [underWay_snoc] at hWay
    have hPast (h : underWay past = some exchange) : Begun (past ++ [(t, f)]) exchange :=
      begun_append.2 (.inl (ih h))
    cases f with
    | started caller e =>
      obtain rfl : e = exchange := Option.some.inj hWay
      exact ⟨caller, by simp⟩
    | settled e result => cases hWay
    | released => cases hWay
    | _ => exact hPast hWay

def Fact.replaces : Fact → Bool
  | .settled _ (.ok _) => true
  | .cleared => true
  | .released => true
  | _ => false

theorem content_of_not_replaces {f : Fact} (h : f.replaces = false) (current : Option HeldToken) :
    f.content current = current := by
  cases f with
  | settled e result =>
    cases result with
    | ok token => cases h
    | error err => rfl
  | cleared => cases h
  | released => cases h
  | _ => rfl

theorem content_eq_some {f : Fact} {current : Option HeldToken} {token : HeldToken}
    (h : f.content current = some token) :
    f.replaces = false ∧ current = some token ∨ ∃ e, f = .settled e (.ok token) := by
  by_cases hQuiet : f.replaces = false
  · rw [content_of_not_replaces hQuiet] at h
    exact .inl ⟨hQuiet, h⟩
  · cases f with
    | settled e result =>
      cases result with
      | ok token' =>
        cases h
        exact .inr ⟨e, rfl⟩
      | error err => exact absurd rfl hQuiet
    | cleared => cases h
    | released => cases h
    | _ => exact absurd rfl hQuiet

theorem held_append_of_quiet {past later : History}
    (h : ∀ f, Happened later f → f.replaces = false) : held (past ++ later) = held past := by
  induction later using List.reverseRecOn with
  | nil => simp
  | append_singleton later last ih =>
    obtain ⟨t, f⟩ := last
    rw [← List.append_assoc, held_snoc, content_of_not_replaces (h f (by simp))]
    exact ih fun g hg => h g (happened_append.2 (.inl hg))

/-- The token held is that of the last successful settlement, if nothing has replaced it since. -/
theorem held_eq_some_iff {h : History} {token : HeldToken} :
    held h = some token ↔ ∃ past t e later, h = past ++ (t, .settled e (.ok token)) :: later ∧
      ∀ f, Happened later f → f.replaces = false := by
  constructor
  · intro hHeld
    induction h using List.reverseRecOn with
    | nil => cases hHeld
    | append_singleton before last ih =>
      obtain ⟨t, f⟩ := last
      rw [held_snoc] at hHeld
      rcases content_eq_some hHeld with ⟨hQuiet, hBefore⟩ | ⟨e, rfl⟩
      · obtain ⟨past, t', e, later, rfl, hLater⟩ := ih hBefore
        refine ⟨past, t', e, later ++ [(t, f)], by simp, ?_⟩
        intro g hg
        rcases happened_append.1 hg with hg | hg
        · exact hLater g hg
        · obtain rfl : g = f := by simpa using hg
          exact hQuiet
      · exact ⟨before, t, e, [], rfl, by simp⟩
  · rintro ⟨past, t, e, later, rfl, hLater⟩
    rw [List.append_cons, held_append_of_quiet hLater, held_snoc]
    rfl

theorem held_append_eq_some {past later : History} {token : HeldToken}
    (h : held (past ++ later) = some token) :
    held past = some token ∨ ∃ e, Happened later (.settled e (.ok token)) := by
  induction later using List.reverseRecOn with
  | nil => exact .inl (by simpa using h)
  | append_singleton later last ih =>
    obtain ⟨t, f⟩ := last
    rw [← List.append_assoc, held_snoc] at h
    rcases content_eq_some h with ⟨-, hBefore⟩ | ⟨e, rfl⟩
    · exact (ih hBefore).imp_right fun ⟨e, hSettled⟩ => ⟨e, happened_append.2 (.inl hSettled)⟩
    · exact .inr ⟨e, by simp⟩

/-- What has to be true of the past for a fact to follow it. -/
def Allows (past : History) (now : Instant) : Fact → Prop
  | .served _ token => held past = some token ∧ token.isUsableAt now = true
  | .joined _ exchange => underWay past = some exchange
  | .started _ exchange =>
    underWay past = none ∧ ¬ Begun past exchange ∧ ¬ Happened past .released
  | .sent exchange request =>
    underWay past = some exchange ∧ (∀ q, ¬ Happened past (.sent exchange q)) ∧
      ∀ e, ¬ Happened past (.sent e request)
  | .replied request _ =>
    (∃ exchange, Happened past (.sent exchange request)) ∧ ∀ r, ¬ Happened past (.replied request r)
  | .judged exchange reply =>
    underWay past = some exchange ∧ (∀ r, ¬ Happened past (.judged exchange r)) ∧
      ∃ request, Happened past (.sent exchange request) ∧ Happened past (.replied request reply)
  | .settled exchange _ => underWay past = some exchange
  | .broke exchange => underWay past = some exchange
  | .cancelled _ => True
  | .cleared => True
  | .released => True

inductive Lawful : History → Prop where
  | nil : Lawful []
  | snoc {past : History} {now : Instant} {f : Fact} (lawful : Lawful past)
      (allowed : Allows past now f) : Lawful (past ++ [(now, f)])

theorem Lawful.split {past later : History} (h : Lawful (past ++ later)) : Lawful past := by
  induction later using List.reverseRecOn with
  | nil => simpa using h
  | append_singleton later last ih =>
    rw [← List.append_assoc] at h
    generalize hWhole : past ++ later ++ [last] = whole at h
    cases h with
    | nil => simp at hWhole
    | snoc hLawful _ =>
      obtain ⟨rfl, -⟩ := List.append_inj' hWhole rfl
      exact ih hLawful

theorem Lawful.allows {past later : History} {now : Instant} {f : Fact}
    (h : Lawful (past ++ (now, f) :: later)) : Allows past now f := by
  have hWhole : Lawful (past ++ [(now, f)] ++ later) := by simpa using h
  have hUpTo := hWhole.split
  generalize hWhole : past ++ [(now, f)] = whole at hUpTo
  cases hUpTo with
  | nil => simp at hWhole
  | snoc _ hAllowed =>
    obtain ⟨rfl, hLast⟩ := List.append_inj' hWhole rfl
    cases hLast
    exact hAllowed

theorem Lawful.begun_of_happened {h : History} (hLawful : Lawful h) {f : Fact} {exchange : Nat}
    (hHappened : Happened h f)
    (hWay : ∀ past now, Allows past now f → underWay past = some exchange) : Begun h exchange := by
  obtain ⟨t, hMem⟩ := hHappened
  obtain ⟨past, later, rfl⟩ := List.append_of_mem hMem
  exact begun_append.2 (.inl (begun_of_underWay (hWay past t hLawful.allows)))

theorem Lawful.begun_of_settled {h : History} (hLawful : Lawful h) {exchange : Nat}
    (hSettled : Settled h exchange) : Begun h exchange := by
  obtain ⟨result, hHappened⟩ := hSettled
  exact hLawful.begun_of_happened hHappened fun _ _ hAllowed => hAllowed

theorem Lawful.begun_of_judged {h : History} (hLawful : Lawful h) {exchange : Nat} {reply : Reply}
    (hJudged : Happened h (.judged exchange reply)) : Begun h exchange :=
  hLawful.begun_of_happened hJudged fun _ _ hAllowed => hAllowed.1

theorem Lawful.begun_of_sent {h : History} (hLawful : Lawful h) {exchange request : Nat}
    (hSent : Happened h (.sent exchange request)) : Begun h exchange :=
  hLawful.begun_of_happened hSent fun _ _ hAllowed => hAllowed.1

/-- As long as a cache is not released, the exchange under way is the one that is begun and not settled. -/
theorem Lawful.underWay_eq_some_iff {h : History} (hLawful : Lawful h) {exchange : Nat} :
    underWay h = some exchange ↔ Unsettled h exchange ∧ ¬ Happened h .released := by
  induction hLawful generalizing exchange with
  | nil => simp [Unsettled]
  | @snoc past now f hPast hAllowed ih =>
    rw [underWay_snoc]
    cases f with
    | started caller e =>
      obtain ⟨hIdle, hFresh, hAlive⟩ := hAllowed
      have hNone (e' : Nat) : ¬ Unsettled past e' := fun hOpen => by
        rw [ih.2 ⟨hOpen, hAlive⟩] at hIdle
        cases hIdle
      have hOpen : ¬ Settled past e := fun hSettled => hFresh (hPast.begun_of_settled hSettled)
      constructor
      · intro hWay
        obtain rfl : e = exchange := Option.some.inj hWay
        simpa [Unsettled, hOpen] using hAlive
      · rintro ⟨⟨hBegun, hOpen⟩, -⟩
        simp only [begun_append, begun_cons, settled_append, not_or] at hBegun hOpen
        rcases hBegun with hBegun | ⟨_, hStarted⟩ | hNever
        · exact absurd ⟨hBegun, hOpen.1⟩ (hNone exchange)
        · cases hStarted
          rfl
        · exact absurd hNever (not_begun_nil exchange)
    | settled e result =>
      constructor
      · intro hWay
        cases hWay
      · -- only the exchange that has just been settled was open before
        rintro ⟨⟨hBegun, hOpen⟩, hAlive⟩
        simp only [settled_append, settled_cons, not_or] at hOpen
        have hWay : underWay past = some exchange :=
          ih.2 ⟨⟨by simpa using hBegun, hOpen.1⟩, by simpa using hAlive⟩
        rw [show underWay past = some e from hAllowed] at hWay
        cases hWay
        exact absurd ⟨result, rfl⟩ hOpen.2.1
    | released => simp [Fact.flight]
    | _ => simpa [Fact.flight, Unsettled] using ih

/-- At most one exchange is unsettled, also after a release. -/
theorem Lawful.unsettled_unique {h : History} (hLawful : Lawful h) {e e' : Nat}
    (hOpen : Unsettled h e) (hOpen' : Unsettled h e') : e = e' := by
  induction hLawful generalizing e e' with
  | nil => exact absurd hOpen.1 (not_begun_nil e)
  | @snoc past now f hPast hAllowed ih =>
    have hOld {exchange : Nat} (hOpen : Unsettled (past ++ [(now, f)]) exchange)
        (hBegun : Begun past exchange) : Unsettled past exchange :=
      ⟨hBegun, fun hSettled => hOpen.2 (settled_append.2 (.inl hSettled))⟩
    cases f with
    | started caller new =>
      obtain ⟨hIdle, -, hAlive⟩ := hAllowed
      have hNew {exchange : Nat} (hOpen : Unsettled (past ++ [(now, .started caller new)]) exchange) :
          exchange = new := by
        rcases begun_append.1 hOpen.1 with hBegun | hBegun
        · rw [hPast.underWay_eq_some_iff.2 ⟨hOld hOpen hBegun, hAlive⟩] at hIdle
          cases hIdle
        · simpa [eq_comm] using hBegun
      rw [hNew hOpen, hNew hOpen']
    | _ => exact ih (hOld hOpen (by simpa using hOpen.1)) (hOld hOpen' (by simpa using hOpen'.1))

theorem Lawful.settled_of_begun {h : History} (hLawful : Lawful h) (hIdle : underWay h = none)
    (hAlive : ¬ Happened h .released) {exchange : Nat} (hBegun : Begun h exchange) : Settled h exchange := by
  by_contra hOpen
  rw [hLawful.underWay_eq_some_iff.2 ⟨⟨hBegun, hOpen⟩, hAlive⟩] at hIdle
  cases hIdle

/-- The kinds of fact that come once for their exchange or request. -/
inductive Kind where
  | sending (exchange : Nat)
  | reply (request : Nat)
  | judgement (exchange : Nat)
  | settlement (exchange : Nat)
  deriving DecidableEq

def Fact.kind? : Fact → Option Kind
  | .sent exchange _ => some (.sending exchange)
  | .replied request _ => some (.reply request)
  | .judged exchange _ => some (.judgement exchange)
  | .settled exchange _ => some (.settlement exchange)
  | _ => none

theorem Lawful.not_again {past : History} (hPast : Lawful past) {now : Instant} {f g : Fact} {kind : Kind}
    (hAllowed : Allows past now f) (hf : f.kind? = some kind) (hg : g.kind? = some kind) :
    ¬ Happened past g := by
  intro hHappened
  cases f with
  | sent e q => cases hf; cases g <;> cases hg; exact hAllowed.2.1 _ hHappened
  | replied q r => cases hf; cases g <;> cases hg; exact hAllowed.2 _ hHappened
  | judged e r => cases hf; cases g <;> cases hg; exact hAllowed.2.1 _ hHappened
  | settled e result =>
    cases hf
    cases g <;> cases hg
    exact (hPast.underWay_eq_some_iff.1 hAllowed).1.2 ⟨_, hHappened⟩
  | _ => cases hf

theorem Lawful.countP_kind {h : History} (hLawful : Lawful h) (kind : Kind) :
    h.countP (fun x => x.2.kind? = some kind) ≤ 1 := by
  induction hLawful with
  | nil => simp
  | @snoc past now f hPast hAllowed ih =>
    rw [List.countP_append, List.countP_singleton]
    by_cases hKind : f.kind? = some kind
    · have hNone : past.countP (fun x => x.2.kind? = some kind) = 0 := by
        rw [List.countP_eq_zero]
        rintro ⟨t, g⟩ hMem
        simp only [decide_eq_true_eq]
        exact fun hAgain => hPast.not_again hAllowed hKind hAgain ⟨t, hMem⟩
      rw [hNone]
      simp [hKind]
    · simpa [hKind] using ih

theorem Lawful.eq_of_kind {h : History} (hLawful : Lawful h) {kind : Kind} {x y : Instant × Fact}
    (hx : x ∈ h) (hy : y ∈ h) (hKind : x.2.kind? = some kind) (hKind' : y.2.kind? = some kind) : x = y := by
  have hCount := hLawful.countP_kind kind
  rw [List.countP_eq_length_filter] at hCount
  have hx' : x ∈ h.filter fun x => x.2.kind? = some kind := List.mem_filter.2 ⟨hx, by simpa using hKind⟩
  have hy' : y ∈ h.filter fun x => x.2.kind? = some kind := List.mem_filter.2 ⟨hy, by simpa using hKind'⟩
  obtain ⟨z, hz⟩ := List.length_eq_one_iff.1 (Nat.le_antisymm hCount (List.length_pos_of_mem hx'))
  rw [hz, List.mem_singleton] at hx' hy'
  rw [hx', hy']

theorem Lawful.sender_unique {h : History} (hLawful : Lawful h) {e e' q : Nat}
    (hSent : Happened h (.sent e q)) (hSent' : Happened h (.sent e' q)) : e = e' := by
  induction hLawful with
  | nil => exact absurd hSent (happened_nil _)
  | snoc _ hAllowed ih =>
    simp only [happened_append, happened_cons, happened_nil, or_false] at hSent hSent'
    rcases hSent with hOld | rfl
    · rcases hSent' with hOld' | rfl
      · exact ih hOld hOld'
      · exact absurd hOld (hAllowed.2.2 e)
    · rcases hSent' with hOld' | hNew
      · exact absurd hOld' (hAllowed.2.2 e')
      · cases hNew
        rfl

end BearerTokens.TokenCache
