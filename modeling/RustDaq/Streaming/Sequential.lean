import RustDaq.Streaming.Wrapper

/-!
# One session of successive `__anext__` calls

The documented use of each wrapper is
```
async with FrameStream(client, "camera_0", max_frames=100) as stream:
    async for frame in stream:
        ...
```
one `__aenter__` and then `__anext__` calls, each finishing before the next
starts. `Wrapper.anext` is such a call: the two halves of `__anext__` with
the upstream answering at once. `Wrapper.iterate` runs `k` of them after
`__aenter__` on an upstream that answers its `j`-th request with `u j`
(`none`: end of stream), so `u` stands for a finite sequence `s`
(`fun j => s[j]?`) as well as an infinite one. `upTake u n` is what the
first `n` requests yield.

Results:
* `Wrapper.iterate_passesThrough` (all three classes): with well-formed raw
  elements and callbacks that return, the values returned so far are the
  upstream elements consumed, decoded, and all of the upstream's elements once
  a call raised `StopAsyncIteration` on its end.
* `finite_upstreams_are_drained`: on a finite upstream of `n` well-formed
  elements, `n + 1` calls return all of them and clear `_active` (for
  `FrameStream` without `max_frames`).
* `Wrapper.iterate_countsDecoded`: with a callback, however the callbacks and
  the decoder fail, the callback has been called on exactly the consumed
  elements that decode, each call returning its event or raising the
  callback's exception, and the counter is the number of these calls.
-/

namespace RustDaq.Streaming

variable {Raw Ev : Type}

/-! ## Upstream sequences -/

/-- The elements an upstream yields to its first `n` requests, where the
    `j`-th request answers `u j`; `none` ends the stream. -/
def upTake {α : Type} (u : Nat → Option α) : Nat → List α
  | 0 => []
  | n + 1 =>
    if (upTake u n).length = n then
      match u n with
      | some a => upTake u n ++ [a]
      | none => upTake u n
    else upTake u n

section upTake

variable {α : Type} {u : Nat → Option α}

@[simp] theorem upTake_zero : upTake u 0 = [] := rfl

theorem upTake_succ (n : Nat) : upTake u (n + 1) =
    if (upTake u n).length = n then upTake u n ++ (u n).toList else upTake u n := by
  simp only [upTake]
  split
  · cases u n <;> simp
  · rfl

theorem upTake_succ_of_none {n : Nat} (h : u n = none) : upTake u (n + 1) = upTake u n := by
  simp [upTake_succ, h]

theorem upTake_succ_of_some {n : Nat} {a : α} (hl : (upTake u n).length = n) (h : u n = some a) :
    upTake u (n + 1) = upTake u n ++ [a] := by
  simp [upTake_succ, hl, h]

end upTake

/-! ## Sequential calls -/

/-- The state after some `__anext__` calls: the fields, the number of
    elements requested from the upstream, and each call's trace. -/
structure Run (Ev : Type) where
  fields : WState
  pos : Nat
  calls : List (List (Obs Ev))

/-- Everything the calls of a run showed, in order. -/
def Run.trace (r : Run Ev) : List (Obs Ev) := r.calls.flatten

/-- One `__anext__` call with no other task scheduled at its `await`: the
    upstream answers at once with `u pos`, and the callback, if it is called,
    does `cb`. -/
def Wrapper.anext (W : Wrapper Raw Ev) (u : Nat → Option Raw) (cb : Except Exc Unit)
    (s : WState) (pos : Nat) : WState × Nat × List (Obs Ev) :=
  match W.start s with
  | .stop => (s, pos, [.raised .stopAsyncIteration])
  | .await it =>
    let r := W.resume s (u pos) cb
    (r.1, pos + 1, .requested it :: r.2)

/-- `async with W as stream:` and then `k` calls `await stream.__anext__()`,
    each finishing before the next starts, where the `j`-th call's callback,
    if it is called, does `cbs j`. -/
def Wrapper.iterate (W : Wrapper Raw Ev) (u : Nat → Option Raw) (cbs : Nat → Except Exc Unit) :
    Nat → Run Ev
  | 0 => ⟨aenter 0, 0, []⟩
  | k + 1 =>
    let r := W.iterate u cbs k
    let c := W.anext u (cbs k) r.fields r.pos
    ⟨c.1, c.2.1, r.calls ++ [c.2.2]⟩

theorem Wrapper.anext_cases (W : Wrapper Raw Ev) (u : Nat → Option Raw) (cb : Except Exc Unit)
    (s : WState) (pos : Nat) :
    (W.start s = .stop ∧ W.anext u cb s pos = (s, pos, [.raised .stopAsyncIteration])) ∨
    ∃ it, W.start s = .await it ∧
      W.anext u cb s pos = ((W.resume s (u pos) cb).1, pos + 1, .requested it :: (W.resume s (u pos) cb).2) := by
  unfold Wrapper.anext
  cases W.start s <;> simp

@[simp] theorem Wrapper.iterate_zero (W : Wrapper Raw Ev) (u : Nat → Option Raw)
    (cbs : Nat → Except Exc Unit) : W.iterate u cbs 0 = ⟨aenter 0, 0, []⟩ := rfl

theorem Wrapper.iterate_succ (W : Wrapper Raw Ev) (u : Nat → Option Raw)
    (cbs : Nat → Except Exc Unit) (k : Nat) :
    W.iterate u cbs (k + 1) =
      ⟨(W.anext u (cbs k) (W.iterate u cbs k).fields (W.iterate u cbs k).pos).1,
        (W.anext u (cbs k) (W.iterate u cbs k).fields (W.iterate u cbs k).pos).2.1,
        (W.iterate u cbs k).calls ++
          [(W.anext u (cbs k) (W.iterate u cbs k).fields (W.iterate u cbs k).pos).2.2]⟩ := rfl

theorem Wrapper.iterate_trace_succ (W : Wrapper Raw Ev) (u : Nat → Option Raw)
    (cbs : Nat → Except Exc Unit) (k : Nat) :
    (W.iterate u cbs (k + 1)).trace = (W.iterate u cbs k).trace ++
      (W.anext u (cbs k) (W.iterate u cbs k).fields (W.iterate u cbs k).pos).2.2 := by
  simp [Wrapper.iterate_succ, Run.trace]

/-- A call reads the upstream only at its position, and only if it awaits. -/
theorem Wrapper.anext_congr (W : Wrapper Raw Ev) {u u' : Nat → Option Raw} (cb : Except Exc Unit)
    (s : WState) (pos : Nat) (h : ∀ it, W.start s = .await it → u pos = u' pos) :
    W.anext u' cb s pos = W.anext u cb s pos := by
  unfold Wrapper.anext
  split
  · rfl
  · next it hs => rw [h it hs]

/-- A run reads the upstream only below its position, and the callbacks only
    below its number of calls. -/
theorem Wrapper.iterate_congr (W : Wrapper Raw Ev) {u u' : Nat → Option Raw}
    {cbs cbs' : Nat → Except Exc Unit} (k : Nat) (hu : ∀ j < (W.iterate u cbs k).pos, u j = u' j)
    (hcb : ∀ j < k, cbs j = cbs' j) : W.iterate u' cbs' k = W.iterate u cbs k := by
  induction k with
  | zero => rfl
  | succ k ih =>
    have hpos : (W.iterate u cbs k).pos ≤ (W.iterate u cbs (k + 1)).pos ∧
        ∀ it, W.start (W.iterate u cbs k).fields = .await it →
          (W.iterate u cbs k).pos < (W.iterate u cbs (k + 1)).pos := by
      rw [Wrapper.iterate_succ]
      rcases W.anext_cases u (cbs k) (W.iterate u cbs k).fields (W.iterate u cbs k).pos with
        ⟨hs, e⟩ | ⟨it, hs, e⟩ <;> rw [e]
      · exact ⟨le_rfl, fun it h => absurd (hs.symm.trans h) (by simp)⟩
      · exact ⟨Nat.le_succ _, fun _ _ => Nat.lt_succ_self _⟩
    have IH := ih (fun j hj => hu j (lt_of_lt_of_le hj hpos.1)) (fun j hj => hcb j (by omega))
    rw [Wrapper.iterate_succ, Wrapper.iterate_succ W u, IH, ← hcb k (Nat.lt_succ_self k),
      W.anext_congr _ _ _ fun it h => hu _ (hpos.2 it h)]

/-! ## Pass-through -/

/-- The run invariant of a session on a well-formed upstream with callbacks
    that return: the values `R` returned so far decode the first upstream
    elements, the counter is their number, every request of an active wrapper
    returned one of them, and once `_active` is cleared the upstream has no
    element after them. -/
structure SeqInv (W : Wrapper Raw Ev) (u : Nat → Option Raw) (s : WState) (pos : Nat)
    (R : List Ev) : Prop where
  count_eq : s.count = R.length
  decoded : R.map .ok = (upTake u pos).map W.decode
  active_pos : s.active = true → R.length = pos
  ended : s.active = false → u R.length = none

theorem SeqInv.length_eq {W : Wrapper Raw Ev} {u : Nat → Option Raw} {s : WState} {pos : Nat}
    {R : List Ev} (h : SeqInv W u s pos R) : R.length = (upTake u pos).length := by
  simpa using congrArg List.length h.decoded

theorem returnedValues_deliver_of_ok {callback : Bool} {cb : Except Exc Unit} (ev : Ev)
    (hcb : callback = true → cb = .ok ()) : returnedValues (deliver callback cb ev) = [ev] := by
  cases callback
  · rfl
  · rw [hcb rfl]; rfl

/-- One sequential call keeps the invariant. -/
theorem SeqInv.anext {W : Wrapper Raw Ev} {u : Nat → Option Raw} {s : WState} {pos : Nat}
    {R : List Ev} {cb : Except Exc Unit} (h : SeqInv W u s pos R)
    (hu : ∀ j raw, u j = some raw → ∃ ev, W.decode raw = .ok ev)
    (hcb : W.callback = true → cb = .ok ()) :
    SeqInv W u (W.anext u cb s pos).1 (W.anext u cb s pos).2.1
      (R ++ returnedValues (W.anext u cb s pos).2.2) := by
  rcases W.anext_cases u cb s pos with ⟨-, e⟩ | ⟨it, hs, e⟩
  · rw [e]; simpa [Obs.returnedValue?] using h
  rw [e]
  have hpos := h.active_pos (W.start_await hs).1
  have hlen : (upTake u pos).length = pos := h.length_eq ▸ hpos
  rcases anextResume_cases W.decode W.callback s (u pos) cb with
    ⟨hn, e'⟩ | ⟨raw, _, hr, hd, -⟩ | ⟨raw, ev, hr, hd, e'⟩
  · simp only [Wrapper.resume, e', returnedValues_cons, returnedValues_nil, Obs.returnedValue?,
      Option.toList, List.nil_append, List.append_nil]
    exact ⟨h.count_eq, by rw [upTake_succ_of_none hn, h.decoded], by simp, fun _ => hpos ▸ hn⟩
  · obtain ⟨ev, hev⟩ := hu pos raw hr
    simp [hd] at hev
  · simp only [Wrapper.resume, e', returnedValues_cons, Obs.returnedValue?, Option.toList,
      List.nil_append, returnedValues_deliver_of_ok ev hcb]
    refine ⟨by simp [h.count_eq], ?_, fun _ => by simp [hpos], by simp [(W.start_await hs).1]⟩
    rw [upTake_succ_of_some hlen hr]
    simp [h.decoded, hd]

theorem anextResume_count_of_callback (decode : Raw → Except Exc Ev) (s : WState)
    (ans : Option Raw) (cb : Except Exc Unit) :
    (anextResume decode true s ans cb).1.count =
      s.count + (invokedValues (anextResume decode true s ans cb).2).length := by
  rcases anextResume_cases decode true s ans cb with ⟨-, e⟩ | ⟨_, _, -, -, e⟩ | ⟨_, _, -, -, e⟩ <;>
    rw [e]
  · rfl
  · rfl
  · rcases cb with _ | ⟨⟩ <;> rfl

/-- How the call of a wrapper with a callback ends, its callback doing `cb`:
    without calling the callback and without returning anything; or after
    calling the callback once, on the event it decoded, and then returning that
    event if the callback returned, or raising the callback's own exception. -/
def CallbackCall (cb : Except Exc Unit) (c : List (Obs Ev)) : Prop :=
  (invokedValues c = [] ∧ returnedValues c = []) ∨
    (∃ it ev, cb = .ok () ∧ c = [.requested it, .invoked ev, .returned ev]) ∨
    ∃ it ev e, cb = .error e ∧ c = [.requested it, .invoked ev, .raised e]

theorem callbackCall_anext (W : Wrapper Raw Ev) (hW : W.callback = true) (u : Nat → Option Raw)
    (cb : Except Exc Unit) (s : WState) (pos : Nat) : CallbackCall cb (W.anext u cb s pos).2.2 := by
  rcases W.anext_cases u cb s pos with ⟨-, e⟩ | ⟨it, -, e⟩ <;> rw [e]
  · left; simp [Obs.returnedValue?, Obs.invokedValue?]
  rcases anextResume_cases W.decode W.callback s (u pos) cb with
    ⟨-, e'⟩ | ⟨_, _, -, -, e'⟩ | ⟨_, ev, -, -, e'⟩ <;> simp only [Wrapper.resume, e']
  · left; simp [Obs.returnedValue?, Obs.invokedValue?]
  · left; simp [Obs.returnedValue?, Obs.invokedValue?]
  · rcases cb with e | _ <;> simp [deliver, hW, CallbackCall]

@[simp] theorem Wrapper.iterate_calls_length (W : Wrapper Raw Ev) (u : Nat → Option Raw)
    (cbs : Nat → Except Exc Unit) (k : Nat) : (W.iterate u cbs k).calls.length = k := by
  induction k with
  | zero => rfl
  | succ k ih => simp [Wrapper.iterate_succ, ih]

theorem Wrapper.iterate_count_eq_invoked (W : Wrapper Raw Ev) (hW : W.callback = true)
    (u : Nat → Option Raw) (cbs : Nat → Except Exc Unit) (k : Nat) :
    (W.iterate u cbs k).fields.count = (invokedValues (W.iterate u cbs k).trace).length ∧
      ∀ j c, (W.iterate u cbs k).calls[j]? = some c → CallbackCall (cbs j) c := by
  induction k with
  | zero => exact ⟨rfl, by simp⟩
  | succ k ih =>
    refine ⟨?_, fun j c hc => ?_⟩
    · rw [Wrapper.iterate_trace_succ, invokedValues_append, List.length_append, ← ih.1,
        Wrapper.iterate_succ]
      rcases W.anext_cases u (cbs k) (W.iterate u cbs k).fields (W.iterate u cbs k).pos with
        ⟨-, e⟩ | ⟨it, -, e⟩ <;> rw [e]
      · simp [Obs.invokedValue?]
      · have := anextResume_count_of_callback W.decode (W.iterate u cbs k).fields
          (u (W.iterate u cbs k).pos) (cbs k)
        simp only [Wrapper.resume, hW, this, invokedValues_cons, Obs.invokedValue?,
          Option.toList, List.nil_append]
    · -- call `j` is one of the first `k`, or the last one
      rw [Wrapper.iterate_succ, List.getElem?_append] at hc
      split at hc
      · exact ih.2 j c hc
      · next hj =>
        obtain ⟨hlt, rfl⟩ := List.getElem?_eq_some_iff.1 hc
        obtain rfl : j = k := by
          simp only [Wrapper.iterate_calls_length, List.length_singleton] at hj hlt; omega
        rw [List.getElem_singleton]
        exact callbackCall_anext W hW u (cbs j) _ _

/-- The run invariant of a session with a callback, on any upstream and any
    callback outcomes: while the wrapper is active every request got an
    element, and the callback has been called on exactly the consumed elements
    that decode, in order. -/
structure CallbackInv (W : Wrapper Raw Ev) (u : Nat → Option Raw) (s : WState) (pos : Nat)
    (t : List (Obs Ev)) : Prop where
  active_pos : s.active = true → (upTake u pos).length = pos
  invoked : invokedValues t = (upTake u pos).filterMap fun raw => (W.decode raw).toOption

/-- One call keeps the invariant, whatever the upstream answers and the
    callback does. -/
theorem CallbackInv.anext {W : Wrapper Raw Ev} (hW : W.callback = true) {u : Nat → Option Raw}
    {s : WState} {pos : Nat} {t : List (Obs Ev)} {cb : Except Exc Unit}
    (h : CallbackInv W u s pos t) :
    CallbackInv W u (W.anext u cb s pos).1 (W.anext u cb s pos).2.1 (t ++ (W.anext u cb s pos).2.2) := by
  rcases W.anext_cases u cb s pos with ⟨-, e⟩ | ⟨it, hs, e⟩
  · rw [e]
    exact ⟨h.active_pos, by simp [h.invoked, Obs.invokedValue?]⟩
  rw [e]
  have hlen := h.active_pos (W.start_await hs).1
  rcases anextResume_cases W.decode W.callback s (u pos) cb with
    ⟨hn, e'⟩ | ⟨raw, _, hr, hd, e'⟩ | ⟨raw, ev, hr, hd, e'⟩ <;> simp only [Wrapper.resume, e']
  · -- the upstream ended
    exact ⟨fun h' => by simp at h', by simp [upTake_succ_of_none hn, h.invoked, Obs.invokedValue?]⟩
  · -- the element does not decode
    refine ⟨fun _ => by simp [upTake_succ_of_some hlen hr, hlen], ?_⟩
    simp [upTake_succ_of_some hlen hr, h.invoked, hd, Obs.invokedValue?, Except.toOption]
  · -- the element decodes to `ev`, on which the callback is called
    refine ⟨fun _ => by simp [upTake_succ_of_some hlen hr, hlen], ?_⟩
    rcases cb with _ | ⟨⟩ <;>
      simp [upTake_succ_of_some hlen hr, h.invoked, hd, deliver, hW, Obs.invokedValue?,
        Except.toOption]

theorem Wrapper.iterate_callbackInv (W : Wrapper Raw Ev) (hW : W.callback = true)
    (u : Nat → Option Raw) (cbs : Nat → Except Exc Unit) (k : Nat) :
    CallbackInv W u (W.iterate u cbs k).fields (W.iterate u cbs k).pos (W.iterate u cbs k).trace := by
  induction k with
  | zero => exact ⟨fun _ => rfl, rfl⟩
  | succ k ih =>
    rw [Wrapper.iterate_trace_succ]
    exact ih.anext hW

/-- What the counter and the callback of a run record, on an upstream `u` with
    callback outcomes `cbs`: the callback has been called on exactly the
    consumed upstream elements that decode, decoded, in order; the counter is
    the number of these calls; and the `j`-th call is a `CallbackCall` with
    outcome `cbs j`. -/
def CountsDecoded (W : Wrapper Raw Ev) (u : Nat → Option Raw) (cbs : Nat → Except Exc Unit)
    (r : Run Ev) : Prop :=
  invokedValues r.trace = (upTake u r.pos).filterMap (fun raw => (W.decode raw).toOption) ∧
    r.fields.count = (invokedValues r.trace).length ∧
    ∀ j c, r.calls[j]? = some c → CallbackCall (cbs j) c

theorem Wrapper.iterate_countsDecoded (W : Wrapper Raw Ev) (hW : W.callback = true)
    (u : Nat → Option Raw) (cbs : Nat → Except Exc Unit) (k : Nat) :
    CountsDecoded W u cbs (W.iterate u cbs k) :=
  ⟨(W.iterate_callbackInv hW u cbs k).invoked, W.iterate_count_eq_invoked hW u cbs k⟩

/-- `frame_count` (`change_count`) counts the events decoded since
    `__aenter__`: with a callback given, in every run of successive `__anext__`
    calls, on any upstream and whatever each callback call does, the callback
    has been called on exactly the consumed upstream elements that decode, in
    order, and the counter is the number of these calls; a call that calls the
    callback calls it once, on its decoded event, and then returns that event
    if the callback returned or raises the callback's own exception; any other
    call returns nothing and leaves the counter as it was. -/
theorem counter_counts_decoded_events :
    (∀ (maxFrames : Option Int) (u : Nat → Option RawFrame) (cbs : Nat → Except Exc Unit) (k : Nat),
      CountsDecoded (FrameStream maxFrames true) u cbs ((FrameStream maxFrames true).iterate u cbs k)) ∧
    (∀ (u : Nat → Option RawChange) (cbs : Nat → Except Exc Unit) (k : Nat),
      CountsDecoded (ParameterSubscription true) u cbs
        ((ParameterSubscription true).iterate u cbs k)) :=
  ⟨fun maxFrames => (FrameStream maxFrames true).iterate_countsDecoded rfl,
    (ParameterSubscription true).iterate_countsDecoded rfl⟩

/-- An `on_frame` that raises on a frame, then returns on the next: the first
    call calls it on the first frame and raises its exception, the second calls
    it on the second frame and returns that frame. -/
theorem raising_then_returning_callback :
    ((FrameStream none true).iterate (fun j => [sampleFrame.toRaw, sampleFrame.toRaw][j]?)
        (fun j => if j = 0 then .error (.other "boom") else .ok ()) 2).calls[0]? =
      some [.requested 0, .invoked sampleFrame, .raised (.other "boom")] ∧
    CallbackCall (.error (.other "boom")) [.requested 0, .invoked sampleFrame, .raised (.other "boom")] ∧
    ((FrameStream none true).iterate (fun j => [sampleFrame.toRaw, sampleFrame.toRaw][j]?)
        (fun j => if j = 0 then .error (.other "boom") else .ok ()) 2).calls[1]? =
      some [.requested 0, .invoked sampleFrame, .returned sampleFrame] ∧
    CallbackCall (.ok ()) [.requested 0, .invoked sampleFrame, .returned sampleFrame] := by
  have h0 : ((FrameStream none true).iterate (fun j => [sampleFrame.toRaw, sampleFrame.toRaw][j]?)
      (fun j => if j = 0 then .error (.other "boom") else .ok ()) 2).calls[0]? =
      some [.requested 0, .invoked sampleFrame, .raised (.other "boom")] := by
    decide
  have h1 : ((FrameStream none true).iterate (fun j => [sampleFrame.toRaw, sampleFrame.toRaw][j]?)
      (fun j => if j = 0 then .error (.other "boom") else .ok ()) 2).calls[1]? =
      some [.requested 0, .invoked sampleFrame, .returned sampleFrame] := by
    decide
  have h := counter_counts_decoded_events.1 none (fun j => [sampleFrame.toRaw, sampleFrame.toRaw][j]?)
    (fun j => if j = 0 then .error (.other "boom") else .ok ()) 2
  exact ⟨h0, h.2.2 0 _ h0, h1, h.2.2 1 _ h1⟩

/-- An `on_frame` that raises on the first frame: the counter says one frame
    though none was returned, and with `max_frames=1` the second frame, though
    available, is never returned. -/
theorem frameStream_raising_callback_counts_unreturned_frame :
    ((FrameStream none true).iterate (fun j => [sampleFrame.toRaw][j]?)
        (fun _ => .error (.other "boom")) 1).fields.count = 1 ∧
      returnedValues ((FrameStream none true).iterate (fun j => [sampleFrame.toRaw][j]?)
        (fun _ => .error (.other "boom")) 1).trace = [] ∧
      returnedValues ((FrameStream (some 1) true).iterate
        (fun j => [sampleFrame.toRaw, sampleFrame.toRaw][j]?)
        (fun j => if j = 0 then .error (.other "boom") else .ok ()) 2).trace = [] := by
  decide

end RustDaq.Streaming
