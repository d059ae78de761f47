import SqlShell.Job.Act

/-! How acts end that are put together of others: with a value, with a fault, or with a fault that
is handled; and properties of the state that they preserve, however they end.
-/

namespace SqlShell

/-- The job after some more events. -/
def Job.noteAll (job : Job) (events : List Event) : Job :=
  { job with trace := job.trace ++ events }

namespace Act

variable {α β : Type}

-----------------------------------------------------------------------------------------
-- Ends
-----------------------------------------------------------------------------------------

/-- An act that looks at the state goes on with it. -/
theorem state_bind (next : Job → Act β) (job : Job) : (state >>= next) job = next job job :=
  rfl

/-- An act that changes the state goes on with the changed one. -/
theorem change_bind (f : Job → Job) (next : Unit → Act β) (job : Job)
    : (change f >>= next) job = next () (f job) :=
  rfl

/-- After an act that ends with a value the next one goes on. -/
theorem bind_of_ok {act : Act α} {next : α → Act β} {job after : Job} {value : α}
    (h : act job = (.ok value, after))
    : (act >>= next) job = next value after := by
  rw [bind_apply, h]

/-- A value after an act that ends well is told as it is. -/
theorem bind_pure_of_ok {act : Act Unit} {job : Job} (h : (act job).1 = .ok ()) (value : β)
    : (act >>= fun _ => pure value) job = (.ok value, (act job).2) := by
  cases ha : act job with
  | mk result after =>
      rw [ha] at h
      obtain rfl : result = .ok () := h
      exact bind_of_ok ha

/-- An act that ends with a fault is the last one. -/
theorem bind_of_error {act : Act α} {next : α → Act β} {job : Job} {fault : Fault}
    (h : (act job).1 = .error fault)
    : (act >>= next) job = (.error fault, (act job).2) := by
  rw [bind_apply]
  cases ha : act job with
  | mk result after =>
      rw [ha] at h
      obtain rfl : result = .error fault := h
      rfl

/-- An act that ends with a fixed value ends with no other one. -/
theorem eq_of_bind_pure {act : Act α} {value end_ : β} {job : Job}
    (h : ((act >>= fun _ => pure value) job).1 = .ok end_)
    : end_ = value := by
  rw [bind_apply] at h
  split at h
  · exact (Except.ok.inj h).symm
  · exact nomatch h

/-- Handling faults changes only the end of an act whose fault is handled. -/
theorem rescue_apply (act : Act α) (kinds : FaultKind → Bool) (handle : Fault → Act α) (job : Job)
    : act.rescue kinds handle job =
        match act job with
        | (.ok value, job) => (.ok value, job)
        | (.error fault, job) =>
            if kinds fault.kind then handle fault job else (.error fault, job) := by
  rw [rescue, bind_apply, observe]
  cases act job with
  | mk result after =>
      cases result with
      | ok value => rfl
      | error fault =>
          show (if kinds fault.kind then handle fault else fail fault) after =
            if kinds fault.kind then handle fault after else (.error fault, after)
          cases kinds fault.kind <;> rfl

/-- A fault that is not handled ends the act as it would without handling. -/
theorem rescue_of_not_handled {act : Act α} {kinds : FaultKind → Bool} {handle : Fault → Act α}
    {job : Job} {fault : Fault} (h : (act job).1 = .error fault) (hk : kinds fault.kind = false)
    : act.rescue kinds handle job = act job := by
  rw [rescue_apply]
  cases ha : act job with
  | mk result after =>
      rw [ha] at h
      obtain rfl : result = .error fault := h
      simp [hk]

/-- An act that ends with a value has no fault to handle. -/
theorem rescue_of_ok {act : Act α} {kinds : FaultKind → Bool} {handle : Fault → Act α}
    {job : Job} {value : α} (h : (act job).1 = .ok value)
    : act.rescue kinds handle job = act job := by
  rw [rescue_apply]
  cases ha : act job with
  | mk result after =>
      rw [ha] at h
      obtain rfl : result = .ok value := h
      rfl

/-- A fault that is handled is followed by the handling. -/
theorem rescue_of_handled {act : Act α} {kinds : FaultKind → Bool} {handle : Fault → Act α}
    {job : Job} {fault : Fault} (h : (act job).1 = .error fault) (hk : kinds fault.kind = true)
    : act.rescue kinds handle job = handle fault (act job).2 := by
  rw [rescue_apply]
  cases ha : act job with
  | mk result after =>
      rw [ha] at h
      obtain rfl : result = .error fault := h
      simp [hk]

/-- Handling that leaves the job alone leaves it as the act does. -/
theorem rescue_job {kinds : FaultKind → Bool} {handle : Fault → Act α}
    (h : ∀ fault job, (handle fault job).2 = job) (act : Act α) (job : Job)
    : (act.rescue kinds handle job).2 = (act job).2 := by
  rw [rescue_apply]
  cases act job with
  | mk result after =>
      cases result with
      | ok value => rfl
      | error fault =>
          cases hk : kinds fault.kind <;> simp [hk, h]

/-- An act with a cleanup ends as the act does, unless the cleanup fails. -/
theorem andFinally_apply (act : Act α) (cleanup : Act Unit) (job : Job)
    : act.andFinally cleanup job =
        match cleanup (act job).2 with
        | (.ok _, after) => ((act job).1, after)
        | (.error fault, after) => (.error fault, after) := by
  rw [andFinally, bind_apply, observe]
  cases act job with
  | mk result after =>
      show (cleanup >>= fun _ => ofResult result) after = _
      rw [bind_apply]
      cases cleanup after with
      | mk done last =>
          cases done with
          | ok _ => cases result <;> rfl
          | error fault => rfl

/-- The state after an act with a cleanup is the one that the cleanup leaves. -/
theorem andFinally_job (act : Act α) (cleanup : Act Unit) (job : Job)
    : (act.andFinally cleanup job).2 = (cleanup (act job).2).2 := by
  rw [andFinally_apply]
  split <;> next h => rw [h]

/-- What an act with a cleanup does depends only on what the act does. -/
theorem andFinally_of_eq {act other : Act α} {job after : Job} (h : act job = other after)
    (cleanup : Act Unit)
    : act.andFinally cleanup job = other.andFinally cleanup after := by
  rw [andFinally_apply, andFinally_apply, h]

/-- A fault of an act with a cleanup is one of either. -/
theorem fault_of_andFinally {act : Act α} {cleanup : Act Unit} {job : Job} {fault : Fault}
    (h : (act.andFinally cleanup job).1 = .error fault)
    : (act job).1 = .error fault ∨ (cleanup (act job).2).1 = .error fault := by
  rw [andFinally_apply] at h
  split at h
  · exact Or.inl h
  · next hc => exact Or.inr (by rw [hc, Except.error.inj h])

/-- A fault of two acts one after the other is one of either. -/
theorem fault_of_bind {act : Act α} {next : α → Act β} {job : Job} {fault : Fault}
    (h : ((act >>= next) job).1 = .error fault)
    : (act job).1 = .error fault
      ∨ ∃ value, (act job).1 = .ok value ∧ (next value (act job).2).1 = .error fault := by
  rw [bind_apply] at h
  split at h
  · next value after ha => exact Or.inr ⟨value, by rw [ha], by rw [ha]; exact h⟩
  · next other after ha => exact Or.inl (by rw [ha, Except.error.inj h])

/-- Two acts one after the other end well only if both do. -/
theorem ok_of_bind {act : Act α} {next : α → Act β} {job after : Job} {value : β}
    (h : (act >>= next) job = (.ok value, after))
    : ∃ first between, act job = (.ok first, between) ∧ next first between = (.ok value, after) := by
  rw [bind_apply] at h
  split at h
  · next first between ha => exact ⟨first, between, ha, h⟩
  · exact nomatch (Prod.mk.inj h).1

theorem ofResult_apply (result : Except Fault α) (job : Job) : ofResult result job = (result, job) := by
  cases result <;> rfl

theorem ok_of_ofResult_bind {result : Except Fault α} {next : α → Act β} {job after : Job}
    {value : β} (h : (ofResult result >>= next) job = (.ok value, after))
    : ∃ first, result = .ok first ∧ next first job = (.ok value, after) := by
  cases result with
  | error fault => exact nomatch (Prod.mk.inj h).1
  | ok first => exact ⟨first, rfl, h⟩

/-- Telling faults as others makes no act end well. -/
theorem ok_of_rescue {act : Act α} {kinds : FaultKind → Bool} {told : Fault → Fault}
    {job after : Job} {value : α}
    (h : act.rescue kinds (fun fault => fail (told fault)) job = (.ok value, after))
    : act job = (.ok value, after) := by
  rw [rescue_apply] at h
  split at h
  · next ha => exact ha.trans h
  · split at h
    · exact nomatch (Prod.mk.inj h).1
    · exact nomatch (Prod.mk.inj h).1

-----------------------------------------------------------------------------------------
-- Properties of the state
-----------------------------------------------------------------------------------------

variable {I : Job → Prop}

/-- If the state has the property before the act, it has it after the act, however that ends. -/
def Preserves (I : Job → Prop) (act : Act α) : Prop :=
  ∀ job, I job → I (act job).2

theorem Preserves.pure (value : α) : Preserves I (pure value : Act α) :=
  fun _ h => h

theorem Preserves.fail (fault : Fault) : Preserves I (fail fault : Act α) :=
  fun _ h => h

theorem Preserves.state : Preserves I state :=
  fun _ h => h

/-- Two acts one after the other preserve a property, by the end of the first. -/
theorem Preserves.bind {act : Act α} {next : α → Act β} (h : Preserves I act)
    (hn : ∀ value, Preserves I (next value))
    : Preserves I (act >>= next) := by
  intro job hi
  have hj := h job hi
  rw [bind_apply]
  cases he : act job with
  | mk result after =>
      rw [he] at hj
      cases result with
      | ok value => exact hn value after hj
      | error fault => exact hj

/-- What comes of two acts one after the other, by a property that the first one preserves: a fault
of the first ends both, and after a value the second one goes on.
-/
theorem Preserves.bind_end {act : Act α} {next : α → Act β} {Q : Except Fault β → Job → Prop}
    (h : Preserves I act) (hf : ∀ fault job, I job → Q (.error fault) job)
    (hn : ∀ value job, I job → Q (next value job).1 (next value job).2) {job : Job} (hi : I job)
    : Q ((act >>= next) job).1 ((act >>= next) job).2 := by
  have hj := h job hi
  rw [bind_apply]
  cases he : act job with
  | mk result after =>
      rw [he] at hj
      cases result with
      | ok value => exact hn value after hj
      | error fault => exact hf fault after hj

theorem Preserves.ofResult (result : Except Fault α) : Preserves I (ofResult result) := by
  cases result with
  | ok value => exact .pure value
  | error fault => exact .fail fault

/-- What comes of a result that is known and an act after it: a fault ends both, and the act goes on
with a value.
-/
theorem ofResult_bind_end {result : Except Fault α} {next : α → Act β}
    {Q : Except Fault β → Job → Prop} {job : Job}
    (hf : ∀ fault, result = .error fault → Q (.error fault) job)
    (hn : ∀ value, result = .ok value → Q (next value job).1 (next value job).2)
    : Q ((ofResult result >>= next) job).1 ((ofResult result >>= next) job).2 := by
  cases result with
  | ok value => exact hn value rfl
  | error fault => exact hf fault rfl

theorem Preserves.observe {act : Act α} (h : Preserves I act) : Preserves I act.observe :=
  fun job hi => h job hi

/-- Handling faults preserves what the act and the handling preserve. -/
theorem Preserves.rescue {act : Act α} {kinds : FaultKind → Bool} {handle : Fault → Act α}
    (h : Preserves I act) (hh : ∀ fault, Preserves I (handle fault))
    : Preserves I (act.rescue kinds handle) := by
  refine h.observe.bind fun result => ?_
  cases result with
  | ok value => exact .pure value
  | error fault =>
      show Preserves I (if kinds fault.kind then handle fault else Act.fail fault)
      split
      · exact hh fault
      · exact .fail fault

/-- An act with a cleanup preserves what both preserve. -/
theorem Preserves.andFinally {act : Act α} {cleanup : Act Unit} (h : Preserves I act)
    (hc : Preserves I cleanup)
    : Preserves I (act.andFinally cleanup) :=
  h.observe.bind fun result => hc.bind fun _ => .ofResult result

/-- Acts for several items preserve what each of them preserves, by induction on the items. -/
theorem Preserves.forEach {items : List α} {act : α → Act Unit}
    (h : ∀ item ∈ items, Preserves I (act item))
    : Preserves I (forEach items act) := by
  induction items with
  | nil => exact .pure ()
  | cons item rest ih =>
      exact (h item List.mem_cons_self).bind fun _ =>
        ih fun other ho => h other (List.mem_cons_of_mem item ho)

end Act

end SqlShell
