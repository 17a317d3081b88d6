import BearerTokens.Proofs.KeySetCache.Operations

/-!
# Which calls there are

An event adds to a lane the call that it begins and no other, and every call keeps the job that it began with.
-/

set_option autoImplicit false

namespace BearerTokens.KeySetCache

open BearerTokens.Http BearerTokens.Time

/-- Every call in the second lane is one of the first, or has the given name and the given job. -/
def Besides (name : CallName) (job : Job) (l l' : Lane) : Prop :=
  ∀ c ∈ l'.calls, c ∈ l.calls ∨ c.name = name ∧ c.job = job

variable {x : Surroundings} {w : Work} {name : CallName} {job : Job} {purpose : Purpose} {g : Nat} {l l' l'' : Lane}

theorem Besides.of_calls (hCalls : l'.calls = l.calls) : Besides name job l l' :=
  fun _ hMem => .inl (hCalls ▸ hMem)

theorem Besides.trans (hFirst : Besides name job l l') (hSecond : Besides name job l' l'') :
    Besides name job l l'' := by
  intro call hMem
  rcases hSecond call hMem with hOld | hSame
  · exact hFirst call hOld
  · exact .inr hSame

theorem besides_setCall (l : Lane) (name : CallName) (job : Job) (stage : Stage) :
    Besides name job l (l.setCall ⟨name, job, stage⟩) := by
  intro call hMem
  rcases Lane.mem_calls_setCall hMem with rfl | hOld
  · exact .inr ⟨rfl, rfl⟩
  · exact .inl hOld

theorem finish_besides (answer : Answer) : Besides name job w.lane (w.finish x name job answer).lane :=
  besides_setCall w.lane name job (.finished answer)

theorem land_calls (number : Nat) (reply : Reply) :
    (land x name purpose g number reply w).1.lane.calls = w.lane.calls := by
  unfold land
  split <;> simp [leave, fail, store, Work.record, Work.note]

theorem download_besides : Besides name job w.lane (download x name job purpose g w).1.lane := by
  unfold download
  dsimp only
  split
  · exact .of_calls (by simp [leave, fail, Work.record, Work.note])
  · split
    · exact .of_calls (land_calls ..)
    · exact besides_setCall _ name job _

theorem inside_besides : Besides name job w.lane (inside x name job purpose g w).1.lane := by
  unfold inside
  split
  · cases purpose <;> exact .of_calls (by simp [leave, Work.record, Work.note])
  · exact download_besides

theorem insideOrWait_besides : Besides name job w.lane (insideOrWait x name job purpose g w).1.lane := by
  unfold insideOrWait
  split
  · exact inside_besides
  · exact besides_setCall _ name job _

theorem enter_besides : Besides name job w.lane (enter x name job purpose w).1.lane :=
  Besides.trans (.of_calls w.lane.calls_takeGuard) insideOrWait_besides

theorem afterReplacement_besides (r : Except Error Stored) :
    Besides name job w.lane (afterReplacement x name job r w).lane := by
  cases r <;> exact finish_besides _

theorem afterLookup_besides (r : Except Error Stored) :
    Besides name job w.lane (afterLookup x name job r w).lane := by
  cases r with
  | error e => exact finish_besides _
  | ok s =>
    have hEntered : Besides name job w.lane
        (enter x name job (.replacement s.number) (w.note [.decision .keySet .kidMiss])).1.lane :=
      enter_besides (w := w.note [.decision .keySet .kidMiss])
    unfold afterLookup
    dsimp only
    split
    · exact finish_besides _
    · split
      · rename_i w' r hOutcome
        rw [hOutcome] at hEntered
        exact hEntered.trans (afterReplacement_besides r)
      · rename_i w' hOutcome
        rw [hOutcome] at hEntered
        exact hEntered

theorem after_besides (outcome : Work × Option (Except Error Stored)) :
    Besides name job outcome.1.lane (after x name job purpose outcome).lane := by
  obtain ⟨w, - | r⟩ := outcome
  · exact .of_calls rfl
  · cases purpose with
    | lookup => exact afterLookup_besides r
    | replacement stale => exact afterReplacement_besides r

theorem startJob_besides : Besides name job w.lane (startJob x name job w).lane := by
  unfold startJob
  split
  · exact Besides.trans (.of_calls rfl) (afterLookup_besides _)
  · exact enter_besides.trans (after_besides _)

theorem call_besides (x : Surroundings) (name : CallName) (inquiry : Inquiry) (w : Work) :
    ∃ job, Besides name job w.lane (call x name inquiry w).lane ∧ (inquiry = .fetch → job = .fetch) := by
  unfold call
  split
  · exact ⟨.fetch, .of_calls rfl, fun _ => rfl⟩
  · cases inquiry with
    | fetch => exact ⟨.fetch, Besides.trans (.of_calls rfl) startJob_besides, fun _ => rfl⟩
    | verify token validation =>
      dsimp only
      split
      · exact ⟨.verify "" token validation, Besides.trans (.of_calls rfl) (finish_besides _), nofun⟩
      · rename_i kid hKey
        exact ⟨.verify kid token validation, Besides.trans (.of_calls rfl) startJob_besides, nofun⟩

/-- What a call that is known does adds no call. -/
theorem Besides.known {c : Call} (hKnown : l.calls.find? (·.name == name) = some c)
    (hBesides : Besides name c.job l l') :
    ∀ call ∈ l'.calls, ∃ old ∈ l.calls, old.name = call.name ∧ old.job = call.job := by
  intro call hMem
  rcases hBesides call hMem with hOld | ⟨hName, hJob⟩
  · exact ⟨call, hOld, rfl, rfl⟩
  · have hSame : c.name = name := beq_iff_eq.1 (List.find?_some (p := fun c : Call => c.name == name) hKnown)
    exact ⟨c, List.mem_of_find?_eq_some hKnown, hSame.trans hName.symm, hJob.symm⟩

theorem resume_calls : ∀ call ∈ (resume x name w).lane.calls,
    ∃ old ∈ w.lane.calls, old.name = call.name ∧ old.job = call.job := by
  unfold resume
  split
  · exact fun call hMem => ⟨call, hMem, rfl, rfl⟩
  · rename_i c hKnown
    apply Besides.known hKnown
    split
    · split
      · refine Besides.trans ?_ (after_besides _)
        exact Besides.trans (.of_calls rfl) insideOrWait_besides
      · exact .of_calls rfl
    · split
      · exact .of_calls rfl
      · exact Besides.trans (.of_calls (land_calls ..)) (after_besides (_, some _))
    · exact .of_calls rfl

theorem cancel_calls : ∀ call ∈ (cancel x name w).lane.calls,
    ∃ old ∈ w.lane.calls, old.name = call.name ∧ old.job = call.job := by
  unfold cancel
  split
  · exact fun call hMem => ⟨call, hMem, rfl, rfl⟩
  · rename_i c hKnown
    apply Besides.known hKnown
    dsimp only
    split
    · exact besides_setCall _ name c.job .cancelled
    · exact besides_setCall _ name c.job .cancelled
    · exact .of_calls rfl

theorem mem_calls_within {c : KeySetCache} {url target : Url} {ready : List Reply} {act : Surroundings → Work → Work}
    {call : Call} (hMem : call ∈ ((c.within target ready act).lane url).calls) :
    call ∈ (c.lane url).calls ∨
      url = target ∧ call ∈ (act (c.surroundings target) ⟨c.lane target, [], ready⟩).lane.calls := by
  rw [lane_within] at hMem
  split at hMem
  · rename_i hTarget
    exact .inr ⟨hTarget, hMem⟩
  · exact .inl hMem

/-- A call that is in a lane after an event was in it before, with the same job, or is the one that the event begins. -/
theorem call_of_step {c : KeySetCache} {url : Url} {event : Event} {call : Call}
    (hMem : call ∈ ((c.step event).lane url).calls) :
    (∃ old ∈ (c.lane url).calls, old.name = call.name ∧ old.job = call.job) ∨
      ∃ inquiry ready, event = .call url call.name inquiry ready ∧ (inquiry = .fetch → call.job = .fetch) := by
  have hOld (hSame : call ∈ (c.lane url).calls) :
      ∃ old ∈ (c.lane url).calls, old.name = call.name ∧ old.job = call.job := ⟨call, hSame, rfl, rfl⟩
  cases event with
  | call target name inquiry ready =>
    rcases mem_calls_within hMem with hSame | ⟨rfl, hWork⟩
    · exact .inl (hOld hSame)
    · obtain ⟨job, hBesides, hFetch⟩ := call_besides (c.surroundings url) name inquiry ⟨c.lane url, [], ready⟩
      rcases hBesides call hWork with hSame | ⟨rfl, rfl⟩
      · exact .inl (hOld hSame)
      · exact .inr ⟨inquiry, ready, rfl, hFetch⟩
  | resume target name ready =>
    rcases mem_calls_within hMem with hSame | ⟨rfl, hWork⟩
    · exact .inl (hOld hSame)
    · exact .inl (resume_calls call hWork)
  | cancel target name =>
    rcases mem_calls_within hMem with hSame | ⟨rfl, hWork⟩
    · exact .inl (hOld hSame)
    · exact .inl (cancel_calls call hWork)
  | reply target number reply =>
    rcases mem_calls_within hMem with hSame | ⟨rfl, hWork⟩
    · exact .inl (hOld hSame)
    · unfold answerRequest at hWork
      split at hWork <;> exact .inl (hOld hWork)
  | invalidate target =>
    rcases mem_calls_within hMem with hSame | ⟨rfl, hWork⟩
    · exact .inl (hOld hSame)
    · exact .inl (hOld hWork)
  | setClock now => exact .inl (hOld hMem)

end BearerTokens.KeySetCache
