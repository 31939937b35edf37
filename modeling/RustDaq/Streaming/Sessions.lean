import RustDaq.Streaming.Interleaving

/-!
# Sessions of one wrapper object

A wrapper object may be entered again after `__aexit__`: each `async with`
block is a session, and `__aenter__` obtains a fresh upstream iterator. The
only state a session can inherit from the sessions before it is the
`__anext__` calls still suspended at their `await`
(`suspended_anext_survives_aexit`). The model numbers upstream iterators by
the `__aenter__` that obtained them, from `0`.

Results:
* `requests_go_to_newest_iterator`: in every interleaving, every upstream
  element requested is requested from the iterator of the latest
  `__aenter__`, never from an earlier session's (while answers to earlier
  requests may still arrive in a later session).
-/

namespace RustDaq.Streaming

variable {Raw Ev : Type}

/-! ## Requests go to the newest iterator -/

/-- The number of upstream iterators obtained along a trace. -/
def opens (t : List (Obs Ev)) : Nat := t.countP fun | .opened _ => true | _ => false

@[simp] theorem opens_nil : opens ([] : List (Obs Ev)) = 0 := rfl

@[simp] theorem opens_append (t t' : List (Obs Ev)) : opens (t ++ t') = opens t + opens t' :=
  List.countP_append _ _ _

@[simp] theorem opens_cons (o : Obs Ev) (t : List (Obs Ev)) :
    opens (o :: t) = (match o with | .opened _ => 1 | _ => 0) + opens t := by
  cases o <;> simp [opens, List.countP_cons, Nat.add_comm]

theorem opens_anextResume (decode : Raw → Except Exc Ev) (callback : Bool) (w : WState)
    (ans : Option Raw) (cb : Except Exc Unit) : opens (anextResume decode callback w ans cb).2 = 0 := by
  rcases anextResume_cases decode callback w ans cb with ⟨-, e⟩ | ⟨_, _, -, -, e⟩ | ⟨_, _, -, -, e⟩ <;>
    rw [e]
  · rfl
  · rfl
  · unfold deliver
    split
    · rcases cb with _ | ⟨⟩ <;> rfl
    · rfl

/-- Along `t`, after `n` iterators were obtained, every request is made to the
    iterator obtained last, number `n - 1` plus those obtained on the way. -/
def NewestAfter (n : Nat) (t : List (Obs Ev)) : Prop :=
  ∀ t₁ it t₂, t = t₁ ++ .requested it :: t₂ → it + 1 = n + opens t₁

theorem NewestAfter.of_requests_eq_zero {n : Nat} {t : List (Obs Ev)} (h : requests t = 0) :
    NewestAfter n t := by
  rintro t₁ it t₂ rfl
  simp at h

theorem NewestAfter.append {n : Nat} {t t' : List (Obs Ev)} (h : NewestAfter n t)
    (h' : NewestAfter (n + opens t) t') : NewestAfter n (t ++ t') := by
  intro t₁ it t₂ e
  rcases List.append_eq_append_iff.1 e with ⟨a, rfl, e'⟩ | ⟨c, rfl, e'⟩
  · rw [h' a it t₂ e', opens_append, Nat.add_assoc]
  · rcases c with _ | ⟨o, c⟩
    · simp only [List.append_nil, List.nil_append] at h' e'
      simpa using h' [] it t₂ e'.symm
    · obtain ⟨rfl, rfl⟩ := List.cons.inj e'
      exact h t₁ it c rfl

/-- The iterator the wrapper holds is the one the latest `__aenter__` obtained. -/
def HoldsNewest (s : Sys) : Prop := ∀ it, s.w.iterator = some it → it + 1 = s.opened

/-- What one step does to the numbering: it keeps `HoldsNewest`, counts the
    iterators it obtains, and requests only from the newest one. -/
theorem Sys.step_holdsNewest (W : Wrapper Raw Ev) {s s' : Sys} {a : Step Raw} {o : List (Obs Ev)}
    (hs : s.step W a = some (s', o)) (h : HoldsNewest s) :
    HoldsNewest s' ∧ s'.opened = s.opened + opens o ∧ NewestAfter s.opened o := by
  cases a with
  | aenter =>
    obtain ⟨rfl, rfl⟩ := Sys.step_aenter_eq_some hs
    refine ⟨fun it hit => ?_, by simp, .of_requests_eq_zero (by simp)⟩
    cases hit
    rfl
  | aexit =>
    obtain ⟨rfl, rfl⟩ := Sys.step_aexit_eq_some hs
    exact ⟨fun it hit => by simp at hit, rfl, .of_requests_eq_zero rfl⟩
  | start =>
    rcases Sys.step_start_eq_some hs with ⟨-, rfl, rfl⟩ | ⟨it, hst, rfl, rfl⟩
    · exact ⟨h, rfl, .of_requests_eq_zero rfl⟩
    · refine ⟨h, rfl, fun t₁ it' t₂ e => ?_⟩
      rcases t₁ with _ | ⟨o, t₁⟩
      · obtain ⟨he, -⟩ := List.cons.inj e
        cases he
        simpa using h it (W.start_await hst).2
      · simp at e
  | resume i ans cb =>
    obtain ⟨-, rfl, rfl⟩ := Sys.step_resume_eq_some hs
    refine ⟨fun it hit => h it (by simpa [Wrapper.resume] using hit), ?_,
      .of_requests_eq_zero (requests_anextResume _ _ _ _ _)⟩
    simp [Wrapper.resume, opens_anextResume]

theorem Sys.run_holdsNewest (W : Wrapper Raw Ev) {s s' : Sys} {σ : List (Step Raw)}
    {t : List (Obs Ev)} (hr : Sys.run W s σ = some (s', t)) (h : HoldsNewest s) :
    NewestAfter s.opened t := by
  induction σ generalizing s t with
  | nil =>
    obtain ⟨rfl, rfl⟩ := Sys.run_nil_eq_some hr
    exact .of_requests_eq_zero rfl
  | cons a σ ih =>
    obtain ⟨s₁, o, o', hs, hr', rfl⟩ := Sys.run_cons_eq_some.1 hr
    obtain ⟨h₁, hn, ho⟩ := Sys.step_holdsNewest W hs h
    exact ho.append (hn ▸ ih hr' h₁)

/-- No request goes to an earlier session's upstream: for every wrapper and
    every interleaving of steps from a new object, each upstream element is
    requested from the iterator that the latest `__aenter__` before the
    request obtained (iterators are numbered from `0` by the `__aenter__`
    calls, so that one is number `opens t₁ - 1`). -/
theorem requests_go_to_newest_iterator (W : Wrapper Raw Ev) {σ : List (Step Raw)} {s : Sys}
    {t : List (Obs Ev)} (hr : Sys.run W Sys.init σ = some (s, t)) :
    ∀ t₁ it t₂, t = t₁ ++ .requested it :: t₂ → it + 1 = opens t₁ := by
  intro t₁ it t₂ e
  simpa [Sys.init] using Sys.run_holdsNewest W hr (fun it h => by cases h) t₁ it t₂ e

/-- Two sessions and a call suspended across them: the request made in the
    second session goes to iterator `1`, after two `__aenter__` calls. -/
theorem second_session_requests_second_iterator :
    Sys.run (FrameStream none false) Sys.init [.aenter, .start, .aexit, .aenter, .start] =
      some (⟨aenter 1, 2, [0, 1]⟩,
        [.opened 0, .requested 0, .opened 1, .requested 1]) ∧
    1 + 1 = opens [Obs.opened 0, .requested 0, (.opened 1 : Obs Frame)] := by
  have hr : Sys.run (FrameStream none false) Sys.init [.aenter, .start, .aexit, .aenter, .start] =
      some (⟨aenter 1, 2, [0, 1]⟩, [.opened 0, .requested 0, .opened 1, .requested 1]) := by
    decide
  exact ⟨hr, requests_go_to_newest_iterator _ hr [.opened 0, .requested 0, .opened 1] 1 [] rfl⟩

end RustDaq.Streaming
