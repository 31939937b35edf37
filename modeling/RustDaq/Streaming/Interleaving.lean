import RustDaq.Streaming.Sequential

/-!
# Tasks sharing one wrapper

Several asyncio tasks may use one wrapper object: a consumer suspended in
`__anext__` while another task leaves the `async with` block, or enters it
again. `Sys` is the object together with the `__anext__` calls suspended at
their `await`, and `Sys.step` is one atomic step of some task: `__aenter__`,
`__aexit__`, the first half of an `__anext__` call, or the second half of a
suspended one once its upstream answered. Every interleaving of the tasks is a
list of steps, run by `Sys.run`; the upstreams' answers and the callbacks'
outcomes are part of the steps, so they range over everything.

The second half of `__anext__` does not look at `_active` or `_iterator` again:
a call suspended before an `__aexit__` completes after it, and after a later
`__aenter__` it completes in the new session
(`suspended_anext_survives_aexit`). Calls that start while `_active` is false
do nothing.

Results:
* `inactive_wrapper_serves_only_suspended_calls`: from a state where `_active`
  is false, or through an `__aexit__`, until the next `__aenter__`, `_active`
  stays false, every `__anext__` that starts raises `StopAsyncIteration` at
  once and changes nothing, no upstream element is requested, and at most one
  event is returned per call suspended at the start.
* `no_step_awaits_aclose`: no step awaits `aclose()` on an upstream iterator;
  after `__aexit__` the wrapper holds none and stays inactive until the next
  `__aenter__`, and an upstream's end clears `_active`.
* `returned_events_never_exceed_requests`: in every interleaving, each
  upstream element requested is returned at most once.
* `counters_count_returned_events`: without a callback, in every interleaving
  until the next `__aenter__`, the counter grows by exactly the events returned.
* `callbacks_answered_in_every_interleaving`: with a callback, the callback is
  called on exactly the decoded upstream answers, each call answered at once by
  the event's return or by the callback's own exception, and the counter grows
  by exactly the number of these events.
* `single_consumer_sessions_are_sequential`: every interleaving of one session
  in which at most one call is suspended at a time, and none at the end, is a
  session of successive calls.
-/

namespace RustDaq.Streaming

variable {Raw Ev : Type}

/-- The wrapper object and the calls suspended in it: its fields, the number of
    upstream iterators `__aenter__` has obtained so far, and, for each
    `__anext__` call suspended at its `await`, the iterator it awaits. -/
structure Sys where
  w : WState
  opened : Nat
  pending : List Nat
  deriving DecidableEq, Repr

/-- A fresh object, as `__init__` leaves it. -/
def Sys.init : Sys := ⟨WState.init, 0, []⟩

/-- One atomic step of some task: `__aenter__`, `__aexit__`, the first half of
    an `__anext__` call, or the second half of the `i`-th suspended call once
    its upstream answered `ans`, its callback (if called) doing `cb`. -/
inductive Step (Raw : Type) where
  | aenter
  | aexit
  | start
  | resume (i : Nat) (ans : Option Raw) (cb : Except Exc Unit)

/-- The effect of a step and what it shows; `none` if it names no suspended call. -/
def Sys.step (W : Wrapper Raw Ev) (s : Sys) : Step Raw → Option (Sys × List (Obs Ev))
  | .aenter => some (⟨aenter s.opened, s.opened + 1, s.pending⟩, [.opened s.opened])
  | .aexit => some ({ s with w := aexit s.w }, [])
  | .start =>
    match W.start s.w with
    | .stop => some (s, [.raised .stopAsyncIteration])
    | .await it => some ({ s with pending := s.pending ++ [it] }, [.requested it])
  | .resume i ans cb =>
    if i < s.pending.length then
      some (⟨(W.resume s.w ans cb).1, s.opened, s.pending.eraseIdx i⟩, (W.resume s.w ans cb).2)
    else none

/-- A list of steps, one after the other, and everything they showed. -/
def Sys.run (W : Wrapper Raw Ev) : Sys → List (Step Raw) → Option (Sys × List (Obs Ev))
  | s, [] => some (s, [])
  | s, a :: as => (s.step W a).bind fun r =>
    (Sys.run W r.1 as).map fun r' => (r'.1, r.2 ++ r'.2)

@[simp] theorem Sys.run_nil (W : Wrapper Raw Ev) (s : Sys) : Sys.run W s [] = some (s, []) := rfl

theorem Sys.run_nil_eq_some {W : Wrapper Raw Ev} {s s' : Sys} {t : List (Obs Ev)}
    (h : Sys.run W s [] = some (s', t)) : s' = s ∧ t = [] := by
  simpa [eq_comm] using h

theorem Sys.run_cons_eq_some {W : Wrapper Raw Ev} {s s'' : Sys} {a : Step Raw}
    {as : List (Step Raw)} {t : List (Obs Ev)} :
    Sys.run W s (a :: as) = some (s'', t) ↔
      ∃ s' o o', s.step W a = some (s', o) ∧ Sys.run W s' as = some (s'', o') ∧ t = o ++ o' := by
  simp only [Sys.run, Option.bind_eq_some, Option.map_eq_some', Prod.exists, Prod.mk.injEq]
  constructor
  · rintro ⟨s', o, hs, _, o', hr, rfl, rfl⟩
    exact ⟨s', o, o', hs, hr, rfl⟩
  · rintro ⟨s', o, o', hs, hr, rfl⟩
    exact ⟨s', o, hs, s'', o', hr, rfl, rfl⟩

theorem Sys.run_append {W : Wrapper Raw Ev} {s s₁ s₂ : Sys} {σ τ : List (Step Raw)}
    {t₁ t₂ : List (Obs Ev)} (h₁ : Sys.run W s σ = some (s₁, t₁))
    (h₂ : Sys.run W s₁ τ = some (s₂, t₂)) : Sys.run W s (σ ++ τ) = some (s₂, t₁ ++ t₂) := by
  induction σ generalizing s t₁ with
  | nil =>
    obtain ⟨rfl, rfl⟩ := Sys.run_nil_eq_some h₁
    simpa using h₂
  | cons a σ ih =>
    obtain ⟨s', o, o', hs, hr, rfl⟩ := Sys.run_cons_eq_some.1 h₁
    exact Sys.run_cons_eq_some.2 ⟨s', o, o' ++ t₂, hs, ih hr, by simp⟩

/-! ## What a step can do -/

section Inversion

variable {W : Wrapper Raw Ev} {s s' : Sys} {o : List (Obs Ev)}

theorem Sys.step_aenter_eq_some (hs : s.step W .aenter = some (s', o)) :
    s' = ⟨aenter s.opened, s.opened + 1, s.pending⟩ ∧ o = [.opened s.opened] := by
  simpa [Sys.step, eq_comm] using hs

theorem Sys.step_aexit_eq_some (hs : s.step W .aexit = some (s', o)) :
    s' = { s with w := aexit s.w } ∧ o = [] := by
  simpa [Sys.step, eq_comm] using hs

/-- The first half of a call either raises `StopAsyncIteration` at once and
    changes nothing, or suspends the call at the iterator it awaits. -/
theorem Sys.step_start_eq_some (hs : s.step W .start = some (s', o)) :
    (W.start s.w = .stop ∧ s' = s ∧ o = [.raised .stopAsyncIteration]) ∨
    ∃ it, W.start s.w = .await it ∧ s' = { s with pending := s.pending ++ [it] } ∧
      o = [.requested it] := by
  simp only [Sys.step] at hs
  split at hs <;> obtain ⟨rfl, rfl⟩ := Prod.mk.injEq _ _ _ _ ▸ Option.some.inj hs
  · exact .inl ⟨‹_›, rfl, rfl⟩
  · exact .inr ⟨_, ‹_›, rfl, rfl⟩

/-- The second half of the `i`-th suspended call ends that call, with the
    effect and the observations of the wrapper's `resume`. -/
theorem Sys.step_resume_eq_some {i : Nat} {ans : Option Raw} {cb : Except Exc Unit}
    (hs : s.step W (.resume i ans cb) = some (s', o)) :
    i < s.pending.length ∧ s' = ⟨(W.resume s.w ans cb).1, s.opened, s.pending.eraseIdx i⟩ ∧
      o = (W.resume s.w ans cb).2 := by
  simp only [Sys.step] at hs
  split at hs
  · obtain ⟨rfl, rfl⟩ := Prod.mk.injEq _ _ _ _ ▸ Option.some.inj hs
    exact ⟨‹_›, rfl, rfl⟩
  · cases hs

end Inversion

/-! ## What one step does -/

/-- Every step suspends one call per upstream element it requests, and ends
    one suspended call per event it returns. -/
theorem Sys.step_returned_le (W : Wrapper Raw Ev) {s s' : Sys} {a : Step Raw}
    {o : List (Obs Ev)} (hs : s.step W a = some (s', o)) :
    (returnedValues o).length + s'.pending.length ≤ s.pending.length + requests o := by
  cases a with
  | aenter =>
    obtain ⟨rfl, rfl⟩ := Sys.step_aenter_eq_some hs
    simp [Obs.returnedValue?]
  | aexit =>
    obtain ⟨rfl, rfl⟩ := Sys.step_aexit_eq_some hs
    simp
  | start =>
    rcases Sys.step_start_eq_some hs with ⟨-, rfl, rfl⟩ | ⟨it, -, rfl, rfl⟩ <;>
      simp [Obs.returnedValue?]
  | resume i ans cb =>
    obtain ⟨hi, rfl, rfl⟩ := Sys.step_resume_eq_some hs
    have := returnedValues_anextResume_length_le W.decode W.callback s.w ans cb
    simp only [Wrapper.resume] at this ⊢
    simp only [List.length_eraseIdx, hi, if_true, requests_anextResume]
    omega

/-- A step other than `__aenter__`, on a wrapper without a callback, adds to
    the counter exactly the events it returns. -/
theorem Sys.step_count (W : Wrapper Raw Ev) (hW : W.callback = false) {s s' : Sys}
    {a : Step Raw} {o : List (Obs Ev)} (ha : a ≠ .aenter) (hs : s.step W a = some (s', o)) :
    s'.w.count = s.w.count + (returnedValues o).length := by
  cases a with
  | aenter => exact absurd rfl ha
  | aexit =>
    obtain ⟨rfl, rfl⟩ := Sys.step_aexit_eq_some hs
    simp
  | start =>
    rcases Sys.step_start_eq_some hs with ⟨-, rfl, rfl⟩ | ⟨it, -, rfl, rfl⟩ <;>
      simp [Obs.returnedValue?]
  | resume i ans cb =>
    obtain ⟨-, rfl, rfl⟩ := Sys.step_resume_eq_some hs
    simpa only [Wrapper.resume, hW] using anextResume_count_of_no_callback W.decode s.w ans cb

/-- What a step other than `__aenter__` does to an inactive wrapper: it stays
    inactive, it does not obtain an iterator, no upstream element is requested,
    no new call is suspended, and a returned event ends a suspended call. -/
theorem Sys.step_of_inactive (W : Wrapper Raw Ev) {s s' : Sys} {a : Step Raw}
    {o : List (Obs Ev)} (h : s.w.active = false) (ha : a ≠ .aenter)
    (hs : s.step W a = some (s', o)) :
    s'.w.active = false ∧ (s.w.iterator = none → s'.w.iterator = none) ∧ requests o = 0 ∧
      (returnedValues o).length + s'.pending.length ≤ s.pending.length := by
  have hle := Sys.step_returned_le W hs
  suffices s'.w.active = false ∧ (s.w.iterator = none → s'.w.iterator = none) ∧ requests o = 0 from
    ⟨this.1, this.2.1, this.2.2, by omega⟩
  cases a with
  | aenter => exact absurd rfl ha
  | aexit =>
    obtain ⟨rfl, rfl⟩ := Sys.step_aexit_eq_some hs
    simp
  | start =>
    rcases Sys.step_start_eq_some hs with ⟨-, rfl, rfl⟩ | ⟨it, hst, -, -⟩
    · simp [h]
    · simp [(W.start_await hst).1] at h
  | resume i ans cb =>
    obtain ⟨-, rfl, rfl⟩ := Sys.step_resume_eq_some hs
    refine ⟨?_, by simp [Wrapper.resume], requests_anextResume _ _ _ _ _⟩
    cases h' : (W.resume s.w ans cb).1.active
    · rfl
    · simpa [h] using anextResume_active_le W.decode W.callback s.w ans cb h'

theorem closed_not_mem_anextResume (decode : Raw → Except Exc Ev) (callback : Bool) (s : WState)
    (ans : Option Raw) (cb : Except Exc Unit) (it : Nat) :
    Obs.closed it ∉ (anextResume decode callback s ans cb).2 := by
  rcases anextResume_cases decode callback s ans cb with ⟨-, e⟩ | ⟨_, _, -, -, e⟩ | ⟨_, _, -, -, e⟩ <;>
    rw [e]
  · simp
  · simp
  · unfold deliver
    split
    · rcases cb with _ | _ <;> simp
    · simp

/-- No step awaits `aclose()` on an upstream iterator. -/
theorem Sys.step_closed_not_mem (W : Wrapper Raw Ev) {s s' : Sys} {a : Step Raw}
    {o : List (Obs Ev)} (hs : s.step W a = some (s', o)) (it : Nat) : Obs.closed it ∉ o := by
  cases a with
  | aenter =>
    obtain ⟨-, rfl⟩ := Sys.step_aenter_eq_some hs
    simp
  | aexit =>
    obtain ⟨-, rfl⟩ := Sys.step_aexit_eq_some hs
    simp
  | start => rcases Sys.step_start_eq_some hs with ⟨-, -, rfl⟩ | ⟨_, -, -, rfl⟩ <;> simp
  | resume i ans cb =>
    obtain ⟨-, -, rfl⟩ := Sys.step_resume_eq_some hs
    exact closed_not_mem_anextResume _ _ _ _ _ it

/-! ## Whole interleavings -/

/-- From an inactive wrapper, until the next `__aenter__`. -/
theorem Sys.run_of_inactive (W : Wrapper Raw Ev) {s s' : Sys} {σ : List (Step Raw)}
    {t : List (Obs Ev)} (h : s.w.active = false) (hσ : ∀ a ∈ σ, a ≠ .aenter)
    (hr : Sys.run W s σ = some (s', t)) :
    s'.w.active = false ∧ (s.w.iterator = none → s'.w.iterator = none) ∧ requests t = 0 ∧
      (returnedValues t).length + s'.pending.length ≤ s.pending.length := by
  induction σ generalizing s t with
  | nil =>
    obtain ⟨rfl, rfl⟩ := Sys.run_nil_eq_some hr
    simp [h]
  | cons a σ ih =>
    obtain ⟨s₁, o, o', hs, hr', rfl⟩ := Sys.run_cons_eq_some.1 hr
    obtain ⟨h₁, hi₁, hq₁, hl₁⟩ := Sys.step_of_inactive W h (hσ a (by simp)) hs
    obtain ⟨h₂, hi₂, hq₂, hl₂⟩ := ih h₁ (fun b hb => hσ b (by simp [hb])) hr'
    refine ⟨h₂, hi₂ ∘ hi₁, by simp [hq₁, hq₂], ?_⟩
    simp only [returnedValues_append, List.length_append]
    omega

theorem Sys.run_closed_not_mem (W : Wrapper Raw Ev) {s s' : Sys} {σ : List (Step Raw)}
    {t : List (Obs Ev)} (hr : Sys.run W s σ = some (s', t)) (it : Nat) : Obs.closed it ∉ t := by
  induction σ generalizing s t with
  | nil =>
    obtain ⟨rfl, rfl⟩ := Sys.run_nil_eq_some hr
    simp
  | cons a σ ih =>
    obtain ⟨s₁, o, o', hs, hr', rfl⟩ := Sys.run_cons_eq_some.1 hr
    simpa using ⟨Sys.step_closed_not_mem W hs it, ih hr'⟩

theorem Sys.run_returned_le (W : Wrapper Raw Ev) {s s' : Sys} {σ : List (Step Raw)}
    {t : List (Obs Ev)} (hr : Sys.run W s σ = some (s', t)) :
    (returnedValues t).length + s'.pending.length ≤ s.pending.length + requests t := by
  induction σ generalizing s t with
  | nil =>
    obtain ⟨rfl, rfl⟩ := Sys.run_nil_eq_some hr
    simp
  | cons a σ ih =>
    obtain ⟨s₁, o, o', hs, hr', rfl⟩ := Sys.run_cons_eq_some.1 hr
    have h₁ := Sys.step_returned_le W hs
    have h₂ := ih hr'
    simp only [returnedValues_append, requests_append, List.length_append]
    omega

theorem Sys.run_count (W : Wrapper Raw Ev) (hW : W.callback = false) {s s' : Sys}
    {σ : List (Step Raw)} {t : List (Obs Ev)} (hσ : ∀ a ∈ σ, a ≠ .aenter)
    (hr : Sys.run W s σ = some (s', t)) :
    s'.w.count = s.w.count + (returnedValues t).length := by
  induction σ generalizing s t with
  | nil =>
    obtain ⟨rfl, rfl⟩ := Sys.run_nil_eq_some hr
    simp
  | cons a σ ih =>
    obtain ⟨s₁, o, o', hs, hr', rfl⟩ := Sys.run_cons_eq_some.1 hr
    rw [ih (fun b hb => hσ b (by simp [hb])) hr', Sys.step_count W hW (hσ a (by simp)) hs,
      returnedValues_append, List.length_append, Nat.add_assoc]

/-- No update of a counter is lost or made twice: for `FrameStream` without
    `on_frame`, `ParameterSubscription` without `on_change`, and
    `DeviceStateStream`, in every interleaving of the tasks' steps until the
    next `__aenter__`, `frame_count` (`change_count`, `update_count`) grows by
    exactly the number of events returned. -/
theorem counters_count_returned_events :
    (∀ (maxFrames : Option Int) (s s' : Sys) (σ : List (Step RawFrame)) (t : List (Obs Frame)),
      (∀ a ∈ σ, a ≠ .aenter) → Sys.run (FrameStream maxFrames false) s σ = some (s', t) →
      s'.w.count = s.w.count + (returnedValues t).length) ∧
    (∀ (s s' : Sys) (σ : List (Step RawChange)) (t : List (Obs ParameterChange)),
      (∀ a ∈ σ, a ≠ .aenter) → Sys.run (ParameterSubscription false) s σ = some (s', t) →
      s'.w.count = s.w.count + (returnedValues t).length) ∧
    (∀ (Update : Type) (s s' : Sys) (σ : List (Step Update)) (t : List (Obs Update)),
      (∀ a ∈ σ, a ≠ .aenter) → Sys.run (DeviceStateStream Update) s σ = some (s', t) →
      s'.w.count = s.w.count + (returnedValues t).length) :=
  ⟨fun _ _ _ _ _ => Sys.run_count _ rfl, fun _ _ _ _ => Sys.run_count _ rfl,
    fun _ _ _ _ _ => Sys.run_count _ rfl⟩

/-- Two consumers of one `FrameStream` without `on_frame`, one of them served
    before `__aexit__`: `frame_count` grew by the one frame returned. -/
theorem two_consumers_count_one_frame :
    (∀ a ∈ [Step.start, .start, .resume 0 (some sampleFrame.toRaw) (.ok ()), .aexit],
      a ≠ (.aenter : Step RawFrame)) ∧
    Sys.run (FrameStream none false) ⟨aenter 0, 1, []⟩
        [.start, .start, .resume 0 (some sampleFrame.toRaw) (.ok ()), .aexit] =
      some (⟨⟨false, none, 1⟩, 1, [0]⟩, [.requested 0, .requested 0, .returned sampleFrame]) ∧
    (⟨⟨false, none, 1⟩, 1, [0]⟩ : Sys).w.count = (⟨aenter 0, 1, []⟩ : Sys).w.count +
      (returnedValues [Obs.requested 0, .requested 0, .returned sampleFrame]).length := by
  have hσ : ∀ a ∈ [Step.start, .start, .resume 0 (some sampleFrame.toRaw) (.ok ()), .aexit],
      a ≠ (.aenter : Step RawFrame) := by
    simp
  have hr : Sys.run (FrameStream none false) ⟨aenter 0, 1, []⟩
      [.start, .start, .resume 0 (some sampleFrame.toRaw) (.ok ()), .aexit] =
      some (⟨⟨false, none, 1⟩, 1, [0]⟩, [.requested 0, .requested 0, .returned sampleFrame]) := by
    decide
  exact ⟨hσ, hr, counters_count_returned_events.1 none _ _ _ _ hσ hr⟩

/-- No upstream element is returned twice: in every interleaving of the steps
    of every wrapper, from a fresh object, the events returned and the calls
    still suspended together number at most the upstream elements requested. -/
theorem returned_events_never_exceed_requests (W : Wrapper Raw Ev) {σ : List (Step Raw)}
    {s : Sys} {t : List (Obs Ev)} (hr : Sys.run W Sys.init σ = some (s, t)) :
    (returnedValues t).length + s.pending.length ≤ requests t := by
  simpa [Sys.init] using Sys.run_returned_le W hr

/-- Two consumers of one `FrameStream` both suspended, and the first answered:
    one frame returned, one call still suspended, two elements requested. -/
theorem two_requests_one_frame :
    Sys.run (FrameStream none false) Sys.init
        [.aenter, .start, .start, .resume 0 (some sampleFrame.toRaw) (.ok ())] =
      some (⟨⟨true, some 0, 1⟩, 1, [0]⟩,
        [.opened 0, .requested 0, .requested 0, .returned sampleFrame]) ∧
    (returnedValues [Obs.opened 0, .requested 0, .requested 0, .returned sampleFrame]).length +
        [0].length ≤ requests [Obs.opened 0, .requested 0, .requested 0, .returned sampleFrame] := by
  have hr : Sys.run (FrameStream none false) Sys.init
      [.aenter, .start, .start, .resume 0 (some sampleFrame.toRaw) (.ok ())] =
      some (⟨⟨true, some 0, 1⟩, 1, [0]⟩,
        [.opened 0, .requested 0, .requested 0, .returned sampleFrame]) := by
    decide
  exact ⟨hr, returned_events_never_exceed_requests _ hr⟩

/-! ## Callbacks under interleaving -/

/-- What the callback of a `resume` step is to see: the event its upstream
    answer decodes to, if it received one that decodes, with the outcome `cb`
    the step gives the callback. -/
def Step.decodedAnswer (W : Wrapper Raw Ev) : Step Raw → Option (Ev × Except Exc Unit)
  | .resume _ (some raw) cb => (W.decode raw).toOption.map fun ev => (ev, cb)
  | _ => none

/-- The decoded upstream answers of the `resume` steps of `σ`, in order, each
    with its callback outcome. -/
def decodedAnswers (W : Wrapper Raw Ev) (σ : List (Step Raw)) : List (Ev × Except Exc Unit) :=
  σ.filterMap (Step.decodedAnswer W)

@[simp] theorem decodedAnswers_nil (W : Wrapper Raw Ev) : decodedAnswers W [] = [] := rfl

@[simp] theorem decodedAnswers_cons (W : Wrapper Raw Ev) (a : Step Raw) (σ : List (Step Raw)) :
    decodedAnswers W (a :: σ) = (a.decodedAnswer W).toList ++ decodedAnswers W σ := by
  cases h : a.decodedAnswer W <;> simp [decodedAnswers, List.filterMap_cons, h]

/-- A trace calls the callback on the events of `as`, in order, and answers
    each call at once: it returns the event if the callback returned, and
    raises the callback's own exception otherwise. No other observation calls
    the callback or returns an event. -/
inductive CallbacksPaired : List (Ev × Except Exc Unit) → List (Obs Ev) → Prop
  | nil : CallbacksPaired [] []
  | other {as : List (Ev × Except Exc Unit)} {o : Obs Ev} {t : List (Obs Ev)} :
      o.invokedValue? = none → o.returnedValue? = none → CallbacksPaired as t →
      CallbacksPaired as (o :: t)
  | returned {as : List (Ev × Except Exc Unit)} {ev : Ev} {t : List (Obs Ev)} :
      CallbacksPaired as t → CallbacksPaired ((ev, .ok ()) :: as) (.invoked ev :: .returned ev :: t)
  | raised {as : List (Ev × Except Exc Unit)} {ev : Ev} {e : Exc} {t : List (Obs Ev)} :
      CallbacksPaired as t → CallbacksPaired ((ev, .error e) :: as) (.invoked ev :: .raised e :: t)

theorem CallbacksPaired.append {as bs : List (Ev × Except Exc Unit)} {t t' : List (Obs Ev)}
    (h : CallbacksPaired as t) (h' : CallbacksPaired bs t') : CallbacksPaired (as ++ bs) (t ++ t') := by
  induction h with
  | nil => exact h'
  | other hi hr _ ih => exact .other hi hr ih
  | returned _ ih => exact .returned ih
  | raised _ ih => exact .raised ih

theorem CallbacksPaired.single {o : Obs Ev} (hi : o.invokedValue? = none)
    (hr : o.returnedValue? = none) : CallbacksPaired [] [o] :=
  .other hi hr .nil

/-- The callback calls of a paired trace are the events of `as`. -/
theorem CallbacksPaired.invokedValues_eq {as : List (Ev × Except Exc Unit)} {t : List (Obs Ev)}
    (h : CallbacksPaired as t) : invokedValues t = as.map Prod.fst := by
  induction h with
  | nil => rfl
  | other hi _ _ ih => simp [hi, ih]
  | returned _ ih => simp [Obs.invokedValue?, ih]
  | raised _ ih => simp [Obs.invokedValue?, ih]

/-- With a callback, the second half of a call calls the callback on the event
    its upstream answer decodes to, if any, and answers that call at once. -/
theorem Wrapper.resume_callbacksPaired (W : Wrapper Raw Ev) (hW : W.callback = true) (s : WState)
    (i : Nat) (ans : Option Raw) (cb : Except Exc Unit) :
    CallbacksPaired ((Step.resume i ans cb).decodedAnswer W).toList (W.resume s ans cb).2 := by
  rcases anextResume_cases W.decode W.callback s ans cb with
    ⟨rfl, e⟩ | ⟨raw, _, rfl, hd, e⟩ | ⟨raw, ev, rfl, hd, e⟩
  · rw [Wrapper.resume, e]
    exact .single rfl rfl
  · rw [Wrapper.resume, e, Step.decodedAnswer, hd]
    exact .single rfl rfl
  · rw [Wrapper.resume, e, Step.decodedAnswer, hd]
    rcases cb with _ | ⟨⟩ <;> simp only [deliver, hW, if_true]
    · exact .raised .nil
    · exact .returned .nil

/-- Every step of a wrapper with a callback calls it on the event its upstream
    answer decodes to, if any, and answers that call at once; a step other
    than `__aenter__` adds one to the counter for each such event. -/
theorem Sys.step_callbacksPaired (W : Wrapper Raw Ev) (hW : W.callback = true) {s s' : Sys}
    {a : Step Raw} {o : List (Obs Ev)} (hs : s.step W a = some (s', o)) :
    CallbacksPaired (a.decodedAnswer W).toList o ∧
      (a ≠ .aenter → s'.w.count = s.w.count + (a.decodedAnswer W).toList.length) := by
  cases a with
  | aenter =>
    obtain ⟨rfl, rfl⟩ := Sys.step_aenter_eq_some hs
    exact ⟨.single rfl rfl, fun h => absurd rfl h⟩
  | aexit =>
    obtain ⟨rfl, rfl⟩ := Sys.step_aexit_eq_some hs
    exact ⟨.nil, fun _ => rfl⟩
  | start =>
    rcases Sys.step_start_eq_some hs with ⟨-, rfl, rfl⟩ | ⟨it, -, rfl, rfl⟩ <;>
      exact ⟨.single rfl rfl, fun _ => rfl⟩
  | resume i ans cb =>
    obtain ⟨-, rfl, rfl⟩ := Sys.step_resume_eq_some hs
    have h := W.resume_callbacksPaired hW s.w i ans cb
    refine ⟨h, fun _ => ?_⟩
    have hc := anextResume_count_of_callback W.decode s.w ans cb
    rw [← hW] at hc
    rw [← List.length_map _ Prod.fst, ← h.invokedValues_eq]
    exact hc

/-- `frame_count` (`change_count`) and the callback under any interleaving: for
    every wrapper with a callback, every state and every interleaving of the
    tasks' steps, the callback is called on exactly the events that the
    upstream answers of the `__anext__` calls decode to, in the order the calls
    received them; each call is answered at once, by returning the event if the
    callback returned and by raising the callback's own exception otherwise,
    and no event is returned without it. Until the next `__aenter__` the
    counter grows by exactly the number of these events. The increment, the
    callback and the return have no `await` between them, so no other task's
    step comes in between. -/
theorem callbacks_answered_in_every_interleaving (W : Wrapper Raw Ev) (hW : W.callback = true)
    {s s' : Sys} {σ : List (Step Raw)} {t : List (Obs Ev)} (hr : Sys.run W s σ = some (s', t)) :
    CallbacksPaired (decodedAnswers W σ) t ∧
      ((∀ a ∈ σ, a ≠ .aenter) → s'.w.count = s.w.count + (decodedAnswers W σ).length) := by
  induction σ generalizing s t with
  | nil =>
    obtain ⟨rfl, rfl⟩ := Sys.run_nil_eq_some hr
    exact ⟨.nil, fun _ => rfl⟩
  | cons a σ ih =>
    obtain ⟨s₁, o, o', hs, hr', rfl⟩ := Sys.run_cons_eq_some.1 hr
    obtain ⟨hp, hc⟩ := Sys.step_callbacksPaired W hW hs
    obtain ⟨hp', hc'⟩ := ih hr'
    refine ⟨by simpa using hp.append hp', fun hσ => ?_⟩
    rw [hc' fun b hb => hσ b (by simp [hb]), hc (hσ a (by simp)), decodedAnswers_cons,
      List.length_append, Nat.add_assoc]

/-- Two consumers of a `FrameStream` with `on_frame`, the first callback call
    raising: both frames are counted, and the callback is called on each,
    answered first by its exception and then by the return. -/
theorem raising_callback_between_two_consumers :
    (FrameStream none true).callback = true ∧
    Sys.run (FrameStream none true) ⟨aenter 0, 1, []⟩
        [.start, .start, .resume 0 (some sampleFrame.toRaw) (.error (.other "ValueError")),
          .resume 0 (some sampleFrame.toRaw) (.ok ())] =
      some (⟨⟨true, some 0, 2⟩, 1, []⟩,
        [.requested 0, .requested 0, .invoked sampleFrame, .raised (.other "ValueError"),
          .invoked sampleFrame, .returned sampleFrame]) ∧
    CallbacksPaired (decodedAnswers (FrameStream none true)
        [.start, .start, .resume 0 (some sampleFrame.toRaw) (.error (.other "ValueError")),
          .resume 0 (some sampleFrame.toRaw) (.ok ())])
      [.requested 0, .requested 0, .invoked sampleFrame, .raised (.other "ValueError"),
        .invoked sampleFrame, .returned sampleFrame] ∧
    (⟨⟨true, some 0, 2⟩, 1, []⟩ : Sys).w.count = (⟨aenter 0, 1, []⟩ : Sys).w.count +
      (decodedAnswers (FrameStream none true)
        [.start, .start, .resume 0 (some sampleFrame.toRaw) (.error (.other "ValueError")),
          .resume 0 (some sampleFrame.toRaw) (.ok ())]).length := by
  have hr : Sys.run (FrameStream none true) ⟨aenter 0, 1, []⟩
      [.start, .start, .resume 0 (some sampleFrame.toRaw) (.error (.other "ValueError")),
        .resume 0 (some sampleFrame.toRaw) (.ok ())] =
      some (⟨⟨true, some 0, 2⟩, 1, []⟩,
        [.requested 0, .requested 0, .invoked sampleFrame, .raised (.other "ValueError"),
          .invoked sampleFrame, .returned sampleFrame]) := by
    decide
  have h := callbacks_answered_in_every_interleaving (FrameStream none true) rfl hr
  exact ⟨rfl, hr, h.1, h.2 (by simp)⟩

/-- What the wrappers do when a session ends. For every wrapper and every
    interleaving: no step awaits `aclose()` on an upstream iterator; after an
    `__aexit__`, and until the next `__aenter__`, `is_active` is false, the
    wrapper holds no iterator and no upstream element is requested; after an
    upstream signalled its end to an `__anext__` call, `is_active` is false
    until the next `__aenter__`. -/
theorem no_step_awaits_aclose (W : Wrapper Raw Ev) :
    (∀ (s s' : Sys) (σ : List (Step Raw)) (t : List (Obs Ev)), Sys.run W s σ = some (s', t) →
      ∀ it, Obs.closed it ∉ t) ∧
    (∀ (s s' : Sys) (σ : List (Step Raw)) (t : List (Obs Ev)), (∀ a ∈ σ, a ≠ .aenter) →
      Sys.run W s (.aexit :: σ) = some (s', t) →
      s'.w.active = false ∧ s'.w.iterator = none ∧ requests t = 0) ∧
    (∀ (s s' : Sys) (i : Nat) (cb : Except Exc Unit) (σ : List (Step Raw)) (t : List (Obs Ev)),
      (∀ a ∈ σ, a ≠ .aenter) → Sys.run W s (.resume i none cb :: σ) = some (s', t) →
      s'.w.active = false) := by
  refine ⟨fun _ _ _ _ hr => Sys.run_closed_not_mem W hr, fun s s' σ t hσ hr => ?_,
    fun s s' i cb σ t hσ hr => ?_⟩
  · obtain ⟨s₁, o, o', hs, hr', rfl⟩ := Sys.run_cons_eq_some.1 hr
    obtain ⟨rfl, rfl⟩ := Sys.step_aexit_eq_some hs
    obtain ⟨h₁, h₂, h₃, -⟩ := Sys.run_of_inactive W (aexit_active s.w) hσ hr'
    exact ⟨h₁, h₂ (aexit_iterator s.w), by simpa using h₃⟩
  · obtain ⟨s₁, o, o', hs, hr', rfl⟩ := Sys.run_cons_eq_some.1 hr
    obtain ⟨-, rfl, -⟩ := Sys.step_resume_eq_some hs
    exact (Sys.run_of_inactive W rfl hσ hr').1

theorem aexit_then_start_requests_nothing :
    (∀ a ∈ [Step.start], a ≠ (.aenter : Step RawFrame)) ∧
    Sys.run (FrameStream none false) ⟨aenter 0, 1, []⟩ [.aexit, .start] =
      some (⟨aexit (aenter 0), 1, []⟩, [.raised .stopAsyncIteration]) ∧
    (aexit (aenter 0)).active = false ∧ (aexit (aenter 0)).iterator = none ∧
      requests [(Obs.raised .stopAsyncIteration : Obs Frame)] = 0 := by
  have hσ : ∀ a ∈ [Step.start], a ≠ (.aenter : Step RawFrame) := by simp
  have hr : Sys.run (FrameStream none false) ⟨aenter 0, 1, []⟩ [.aexit, .start] =
      some (⟨aexit (aenter 0), 1, []⟩, [.raised .stopAsyncIteration]) := by
    decide
  exact ⟨hσ, hr, (no_step_awaits_aclose _).2.1 _ _ _ _ hσ hr⟩

/-- `async with FrameStream(client, "camera_0"):` with an empty body: the
    iterator `__aenter__` obtained is never closed. -/
theorem aexit_leaves_upstream_open :
    Sys.run (FrameStream none false) Sys.init [.aenter, .aexit] =
      some (⟨aexit (aenter 0), 1, []⟩, [.opened 0]) := by
  decide

/-! ## Calls suspended at once -/

/-- The largest number of `__anext__` calls suspended at once along a list of
    steps from `s`, up to the first step that names no suspended call. -/
def Sys.peak (W : Wrapper Raw Ev) : Sys → List (Step Raw) → Nat
  | s, [] => s.pending.length
  | s, a :: as =>
    match s.step W a with
    | some r => max s.pending.length (Sys.peak W r.1 as)
    | none => s.pending.length

theorem Sys.pending_le_peak (W : Wrapper Raw Ev) (s : Sys) (σ : List (Step Raw)) :
    s.pending.length ≤ Sys.peak W s σ := by
  cases σ with
  | nil => exact le_refl _
  | cons a σ =>
    simp only [Sys.peak]
    split
    · exact le_max_left _ _
    · exact le_refl _

theorem Sys.run_append_eq_some {W : Wrapper Raw Ev} {s s'' : Sys} {σ τ : List (Step Raw)}
    {t : List (Obs Ev)} :
    Sys.run W s (σ ++ τ) = some (s'', t) ↔
      ∃ s' t₁ t₂, Sys.run W s σ = some (s', t₁) ∧ Sys.run W s' τ = some (s'', t₂) ∧
        t = t₁ ++ t₂ := by
  refine ⟨fun h => ?_, fun ⟨s', t₁, t₂, h₁, h₂, e⟩ => e ▸ Sys.run_append h₁ h₂⟩
  induction σ generalizing s t with
  | nil => exact ⟨s, [], t, rfl, h, rfl⟩
  | cons a σ ih =>
    obtain ⟨s₁, o, o', hs, hr, rfl⟩ := Sys.run_cons_eq_some.1 h
    obtain ⟨s', t₁, t₂, h₁, h₂, rfl⟩ := ih hr
    exact ⟨s', o ++ t₁, t₂, Sys.run_cons_eq_some.2 ⟨s₁, o, t₁, hs, h₁, rfl⟩, h₂, by simp⟩

/-- The peak along a list of steps bounds the peak along each part of it, and
    the calls suspended at its end. -/
theorem Sys.peak_append {W : Wrapper Raw Ev} {s s' : Sys} {σ τ : List (Step Raw)}
    {t : List (Obs Ev)} (h : Sys.run W s σ = some (s', t)) :
    Sys.peak W s σ ≤ Sys.peak W s (σ ++ τ) ∧ Sys.peak W s' τ ≤ Sys.peak W s (σ ++ τ) := by
  induction σ generalizing s t with
  | nil =>
    obtain ⟨rfl, rfl⟩ := Sys.run_nil_eq_some h
    exact ⟨Sys.pending_le_peak W s' τ, le_rfl⟩
  | cons a σ ih =>
    obtain ⟨s₁, o, o', hs, hr, rfl⟩ := Sys.run_cons_eq_some.1 h
    simp only [Sys.peak, List.cons_append, List.append_eq, hs]
    have := ih hr
    constructor <;> omega

theorem Sys.run_pending_le_peak {W : Wrapper Raw Ev} {s s' : Sys} {σ : List (Step Raw)}
    {t : List (Obs Ev)} (h : Sys.run W s σ = some (s', t)) :
    s'.pending.length ≤ Sys.peak W s σ := by
  simpa using (Sys.peak_append (τ := []) h).2.trans (le_of_eq (by rw [List.append_nil]))

/-! ## One consumer at a time -/

/-- Where a session with one consumer at a time is after some steps: between
    calls, at the end of a run of successive calls; or inside a call, after the
    first half that awaited `it`. -/
theorem Sys.run_single_consumer (W : Wrapper Raw Ev) {σ : List (Step Raw)} {s : Sys}
    {t : List (Obs Ev)} (hσ : ∀ a ∈ σ, a ≠ .aenter ∧ a ≠ .aexit)
    (hpeak : Sys.peak W ⟨aenter 0, 1, []⟩ σ ≤ 1) (hr : Sys.run W ⟨aenter 0, 1, []⟩ σ = some (s, t)) :
    ∃ u cbs k, (s = ⟨(W.iterate u cbs k).fields, 1, []⟩ ∧ t = (W.iterate u cbs k).trace) ∨
      ∃ it, W.start (W.iterate u cbs k).fields = .await it ∧
        s = ⟨(W.iterate u cbs k).fields, 1, [it]⟩ ∧ t = (W.iterate u cbs k).trace ++ [.requested it] := by
  induction σ using List.reverseRecOn generalizing s t with
  | nil =>
    obtain ⟨rfl, rfl⟩ := Sys.run_nil_eq_some hr
    exact ⟨fun _ => none, fun _ => .ok (), 0, .inl ⟨rfl, rfl⟩⟩
  | append_singleton σ a ih =>
    obtain ⟨s₁, t₁, t₂, h₁, h₂, rfl⟩ := Sys.run_append_eq_some.1 hr
    obtain ⟨s₂, o, o', hs, ho', rfl⟩ := Sys.run_cons_eq_some.1 h₂
    obtain ⟨rfl, rfl⟩ := Sys.run_nil_eq_some ho'
    have hpk := Sys.peak_append (τ := [a]) h₁
    have hlast : s.pending.length ≤ 1 :=
      ((Sys.run_pending_le_peak h₂).trans hpk.2).trans hpeak
    obtain ⟨hen, hex⟩ := hσ a (by simp)
    obtain ⟨u, cbs, k, hq | ⟨it, hst, rfl, rfl⟩⟩ :=
      ih (fun b hb => hσ b (by simp [hb])) (hpk.1.trans hpeak) h₁
    · -- between calls: a first half starts the next call
      obtain ⟨rfl, rfl⟩ := hq
      cases a with
      | aenter => exact absurd rfl hen
      | aexit => exact absurd rfl hex
      | start =>
        rcases Sys.step_start_eq_some hs with ⟨hst, rfl, rfl⟩ | ⟨it, hst, rfl, rfl⟩
        · refine ⟨u, cbs, k + 1, .inl ⟨?_, ?_⟩⟩ <;>
            simp [Wrapper.iterate_succ, Run.trace, Wrapper.anext, hst]
        · exact ⟨u, cbs, k, .inr ⟨it, hst, rfl, by simp⟩⟩
      | resume i ans cb => exact absurd (Sys.step_resume_eq_some hs).1 (by simp)
    · -- inside a call: only its second half can come, with some answer
      cases a with
      | aenter => exact absurd rfl hen
      | aexit => exact absurd rfl hex
      | start =>
        rcases Sys.step_start_eq_some hs with ⟨hst', -, -⟩ | ⟨it', -, rfl, rfl⟩
        · simp [hst] at hst'
        · simp at hlast
      | resume i ans cb =>
        obtain ⟨hi, rfl, rfl⟩ := Sys.step_resume_eq_some hs
        obtain rfl : i = 0 := by simpa using hi
        set r := W.iterate u cbs k
        let u' : Nat → Option Raw := fun j => if j = r.pos then ans else u j
        let cbs' : Nat → Except Exc Unit := fun j => if j = k then cb else cbs j
        have hsame : W.iterate u' cbs' k = r :=
          W.iterate_congr k (fun j hj => by simp [u', Nat.ne_of_lt hj])
            (fun j hj => by simp [cbs', Nat.ne_of_lt hj])
        refine ⟨u', cbs', k + 1, .inl ⟨?_, ?_⟩⟩ <;>
          simp [Wrapper.iterate_succ, Run.trace, Wrapper.anext, hsame, hst, u', cbs']

/-- Every session with one consumer at a time is a sequential session: for
    every wrapper and every interleaving, after `__aenter__` on a new object,
    of first and second halves of `__anext__` calls in which at most one call
    is suspended at a time and none is left suspended at the end, some upstream,
    callback outcomes and number of calls give a run of successive calls
    (`Wrapper.iterate`) that ends in the same fields and shows the same
    trace, so the results on sequential sessions hold for every such
    schedule. -/
theorem single_consumer_sessions_are_sequential (W : Wrapper Raw Ev) {σ : List (Step Raw)}
    {s : Sys} {t : List (Obs Ev)} (hσ : ∀ a ∈ σ, a ≠ .aenter ∧ a ≠ .aexit)
    (hpeak : Sys.peak W Sys.init (.aenter :: σ) ≤ 1)
    (hr : Sys.run W Sys.init (.aenter :: σ) = some (s, t)) (hs : s.pending = []) :
    ∃ u cbs k, s = ⟨(W.iterate u cbs k).fields, 1, []⟩ ∧ t = .opened 0 :: (W.iterate u cbs k).trace := by
  obtain ⟨s₁, o, o', h₁, hr', rfl⟩ := Sys.run_cons_eq_some.1 hr
  obtain ⟨rfl, rfl⟩ := Sys.step_aenter_eq_some h₁
  simp only [Sys.peak, h₁] at hpeak
  obtain ⟨u, cbs, k, ⟨rfl, rfl⟩ | ⟨it, -, rfl, -⟩⟩ :=
    Sys.run_single_consumer W hσ (Nat.max_le.1 hpeak).2 hr'
  · exact ⟨u, cbs, k, rfl, rfl⟩
  · simp at hs

/-- One consumer of `FrameStream` takes a frame and then the end of the
    stream, with a call in between that raises once the stream has ended. -/
theorem one_consumer_takes_frame_then_end :
    (∀ a ∈ [Step.start, .resume 0 (some sampleFrame.toRaw) (.ok ()), .start, .resume 0 none (.ok ()),
        .start], a ≠ .aenter ∧ a ≠ .aexit) ∧
    Sys.peak (FrameStream none false) Sys.init
        [.aenter, .start, .resume 0 (some sampleFrame.toRaw) (.ok ()), .start,
          .resume 0 none (.ok ()), .start] ≤ 1 ∧
    Sys.run (FrameStream none false) Sys.init
        [.aenter, .start, .resume 0 (some sampleFrame.toRaw) (.ok ()), .start,
          .resume 0 none (.ok ()), .start] =
      some (⟨⟨false, some 0, 1⟩, 1, []⟩,
        [.opened 0, .requested 0, .returned sampleFrame, .requested 0,
          .raised .stopAsyncIteration, .raised .stopAsyncIteration]) ∧
    (⟨⟨false, some 0, 1⟩, 1, []⟩ : Sys).pending = [] ∧
    ∃ u cbs k, (⟨⟨false, some 0, 1⟩, 1, []⟩ : Sys) =
        ⟨((FrameStream none false).iterate u cbs k).fields, 1, []⟩ ∧
      [Obs.opened 0, .requested 0, .returned sampleFrame, .requested 0,
          .raised .stopAsyncIteration, .raised .stopAsyncIteration] =
        .opened 0 :: ((FrameStream none false).iterate u cbs k).trace := by
  have hσ : ∀ a ∈ [Step.start, .resume 0 (some sampleFrame.toRaw) (.ok ()), .start,
      .resume 0 none (.ok ()), .start], a ≠ .aenter ∧ a ≠ .aexit := by simp
  have hp : Sys.peak (FrameStream none false) Sys.init
      [.aenter, .start, .resume 0 (some sampleFrame.toRaw) (.ok ()), .start,
        .resume 0 none (.ok ()), .start] ≤ 1 := by decide
  have hr : Sys.run (FrameStream none false) Sys.init
      [.aenter, .start, .resume 0 (some sampleFrame.toRaw) (.ok ()), .start,
        .resume 0 none (.ok ()), .start] =
      some (⟨⟨false, some 0, 1⟩, 1, []⟩,
        [.opened 0, .requested 0, .returned sampleFrame, .requested 0,
          .raised .stopAsyncIteration, .raised .stopAsyncIteration]) := by decide
  exact ⟨hσ, hp, hr, rfl, single_consumer_sessions_are_sequential _ hσ hp hr rfl⟩

end RustDaq.Streaming
