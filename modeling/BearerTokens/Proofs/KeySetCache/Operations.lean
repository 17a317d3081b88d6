import BearerTokens.KeySet.Cache.Basic
import BearerTokens.Proofs.Places

/-!
# Parts of a key-set cache

Lanes are told apart by their URLs and calls by their names: what is put in one place leaves the other places
alone.
-/

set_option autoImplicit false

namespace BearerTokens.KeySetCache

open BearerTokens.Http BearerTokens.Time

theorem lookup_eq_find? (lanes : List (Url × Lane)) (url : Url) :
    lanes.lookup url = (lanes.find? (·.1 == url)).map (·.2) := by
  induction lanes with
  | nil => rfl
  | cons p ps ih =>
    obtain ⟨u, l⟩ := p
    rw [List.lookup_cons, List.find?_cons, ih]
    by_cases h : u = url
    · simp [h]
    · simp only [beq_false_of_ne h, beq_false_of_ne (Ne.symm h)]

theorem lane_setLane (c : KeySetCache) (url other : Url) (l : Lane) :
    (c.setLane url l).lane other = if other = url then l else c.lane other := by
  unfold setLane lane
  simp only [lookup_eq_find?]
  rw [find?_place Prod.fst c.lanes (url, l) other]
  split <;> rfl

theorem lane_within (c : KeySetCache) (url other : Url) (ready : List Reply)
    (act : Surroundings → Work → Work) :
    (c.within url ready act).lane other =
      if other = url then (act (c.surroundings url) ⟨c.lane url, [], ready⟩).lane else c.lane other :=
  lane_setLane c url other _

namespace Lane

theorem calls_setCall (l : Lane) (call : Call) :
    (l.setCall call).calls =
      if l.calls.any (·.name == call.name) then l.calls.map fun c => if c.name == call.name then call else c
      else l.calls ++ [call] := by
  unfold setCall
  split <;> rfl

@[simp] theorem guards_setCall (l : Lane) (call : Call) : (l.setCall call).guards = l.guards := by
  unfold setCall
  split <;> rfl

@[simp] theorem guard_setCall (l : Lane) (call : Call) : (l.setCall call).guard = l.guard := by
  unfold setCall
  split <;> rfl

@[simp] theorem transport_setCall (l : Lane) (call : Call) : (l.setCall call).transport = l.transport := by
  unfold setCall
  split <;> rfl

@[simp] theorem history_setCall (l : Lane) (call : Call) : (l.setCall call).history = l.history := by
  unfold setCall
  split <;> rfl

@[simp] theorem entry_setCall (l : Lane) (call : Call) : (l.setCall call).entry = l.entry := by
  unfold setCall
  split <;> rfl

@[simp] theorem storedCount_setCall (l : Lane) (call : Call) :
    (l.setCall call).storedCount = l.storedCount := by
  unfold setCall
  split <;> rfl

theorem mem_calls_setCall {l : Lane} {call c : Call} (h : c ∈ (l.setCall call).calls) :
    c = call ∨ c ∈ l.calls := by
  rw [calls_setCall] at h
  split at h
  · obtain ⟨c', hMem, rfl⟩ := List.mem_map.1 h
    split
    · exact .inl rfl
    · exact .inr hMem
  · rcases List.mem_append.1 h with hOld | hNew
    · exact .inr hOld
    · exact .inl (List.mem_singleton.1 hNew)

theorem find?_setCall (l : Lane) (call : Call) (name : CallName) :
    (l.setCall call).calls.find? (·.name == name) =
      if name = call.name then some call else l.calls.find? (·.name == name) := by
  rw [calls_setCall]
  exact find?_place Call.name l.calls call name

theorem stage?_setCall (l : Lane) (call : Call) (name : CallName) :
    (l.setCall call).stage? name = if name = call.name then some call.stage else l.stage? name := by
  unfold stage?
  rw [find?_setCall]
  split <;> rfl

theorem stage?_setCall_self (l : Lane) (call : Call) : (l.setCall call).stage? call.name = some call.stage := by
  rw [stage?_setCall, if_pos rfl]

theorem stage?_setCall_of_other (l : Lane) {call : Call} {name : CallName} (h : name ≠ call.name) :
    (l.setCall call).stage? name = l.stage? name := by
  rw [stage?_setCall, if_neg h]

/-- No two calls have one name. -/
def Distinct (l : Lane) : Prop :=
  (l.calls.map Call.name).Nodup

theorem Distinct.setCall {l : Lane} (h : l.Distinct) (call : Call) : (l.setCall call).Distinct := by
  unfold Distinct
  rw [calls_setCall]
  exact nodup_place Call.name h call

theorem stage?_eq_some_iff {l : Lane} (h : l.Distinct) {name : CallName} {stage : Stage} :
    l.stage? name = some stage ↔ ∃ c ∈ l.calls, c.name = name ∧ c.stage = stage := by
  constructor
  · intro hStage
    obtain ⟨c, hFound, rfl⟩ := Option.map_eq_some_iff.1 hStage
    have hName := List.find?_some (p := fun c : Call => c.name == name) hFound
    exact ⟨c, List.mem_of_find?_eq_some hFound, beq_iff_eq.1 hName, rfl⟩
  · rintro ⟨c, hMem, rfl, rfl⟩
    unfold stage?
    rw [find?_of_mem Call.name h hMem]
    rfl

theorem stage?_of_known {l : Lane} {name : CallName} {call : Call}
    (h : l.calls.find? (·.name == name) = some call) : l.stage? name = some call.stage := by
  rw [stage?, h, Option.map_some]

theorem isShared_eq_true_iff {l : Lane} (h : l.Distinct) {g : Nat} {name : CallName} :
    l.isShared g name = true ↔
      ∃ n stage, n ≠ name ∧ l.stage? n = some stage ∧ stage.guard? = some g := by
  simp only [isShared, List.any_eq_true, Bool.and_eq_true, bne_iff_ne, decide_eq_true_eq, stage?_eq_some_iff h]
  constructor
  · rintro ⟨c, hMem, hName, hGuard⟩
    exact ⟨c.name, c.stage, hName, ⟨c, hMem, rfl, rfl⟩, hGuard⟩
  · rintro ⟨n, stage, hName, ⟨c, hMem, rfl, rfl⟩, hGuard⟩
    exact ⟨c, hMem, hName, hGuard⟩

theorem isHolder_eq_true_iff {l : Lane} {g : Nat} {name : CallName} :
    l.isHolder g name = true ↔ ∃ guard : Guard, l.guards[g]? = some guard ∧ guard.holder = some name := by
  unfold isHolder
  cases l.guards[g]? <;> simp

@[simp] theorem calls_takeGuard (l : Lane) : l.takeGuard.1.calls = l.calls := by
  unfold takeGuard
  split <;> rfl

@[simp] theorem history_takeGuard (l : Lane) : l.takeGuard.1.history = l.history := by
  unfold takeGuard
  split <;> rfl

@[simp] theorem transport_takeGuard (l : Lane) : l.takeGuard.1.transport = l.transport := by
  unfold takeGuard
  split <;> rfl

@[simp] theorem entry_takeGuard (l : Lane) : l.takeGuard.1.entry = l.entry := by
  unfold takeGuard
  split <;> rfl

@[simp] theorem storedCount_takeGuard (l : Lane) : l.takeGuard.1.storedCount = l.storedCount := by
  unfold takeGuard
  split <;> rfl

@[simp] theorem calls_leaveGuard (l : Lane) (g : Nat) (name : CallName) :
    (l.leaveGuard g name).calls = l.calls := by
  unfold leaveGuard
  dsimp only
  split <;> rfl

@[simp] theorem history_leaveGuard (l : Lane) (g : Nat) (name : CallName) :
    (l.leaveGuard g name).history = l.history := by
  unfold leaveGuard
  dsimp only
  split <;> rfl

@[simp] theorem transport_leaveGuard (l : Lane) (g : Nat) (name : CallName) :
    (l.leaveGuard g name).transport = l.transport := by
  unfold leaveGuard
  dsimp only
  split <;> rfl

@[simp] theorem entry_leaveGuard (l : Lane) (g : Nat) (name : CallName) :
    (l.leaveGuard g name).entry = l.entry := by
  unfold leaveGuard
  dsimp only
  split <;> rfl

@[simp] theorem storedCount_leaveGuard (l : Lane) (g : Nat) (name : CallName) :
    (l.leaveGuard g name).storedCount = l.storedCount := by
  unfold leaveGuard
  dsimp only
  split <;> rfl

end Lane

end BearerTokens.KeySetCache
