import RustDaq.Streaming.Event

/-!
# The stream wrappers: `__aenter__`, `__aexit__` and the two halves of `__anext__`

`FrameStream`, `ParameterSubscription` and `DeviceStateStream`
(`streaming.py`, lines 122–404) keep the same three fields: `_active`,
`_iterator` and a counter (`_frame_count`, `_change_count`,
`_update_count`). Their `__aenter__` and `__aexit__` have the same body; they
differ only in the client method `__aenter__` calls, and the model names the
iterator it obtains by the number of that `__aenter__`.

`__anext__` suspends once, at `await self._iterator.__anext__()`, and asyncio
does not preempt a task between two `await`s. A call is therefore two atomic
steps: the code before the `await` (`Wrapper.start`), which raises
`StopAsyncIteration` at once or awaits an upstream iterator, and the code
after it (`anextResume`), run when that iterator answers. Only `FrameStream`
tests `max_frames` before the `await` (`FrameStream.anextStart`); after it the
three classes differ only in the decoder and in the callback (`on_frame`,
`on_change`, and none for `DeviceStateStream`).

A step's effect on the outside is a list of `Obs`: calls on upstream
iterators, calls of the callback, and what `__anext__` returns or raises.

Results:
* `Wrapper.start_eq_stop_of_inactive`: a wrapper whose `_active` is false
  raises `StopAsyncIteration` before awaiting anything.
* `anextResume_cases`: the three things the second half can do; the field
  and trace lemmas below it are what later invariants are derived from.
-/

namespace RustDaq.Streaming

variable {Raw Ev : Type}

/-! ## Observations -/

/-- What a step shows to the outside: `opened it`, `__aenter__` obtaining
    upstream iterator `it`; `requested it`, an `await it.__anext__()`;
    `closed it`, an `await it.aclose()`; `invoked ev`, a call of the callback;
    `returned ev` and `raised e`, how an `__anext__` call ends. -/
inductive Obs (Ev : Type) where
  | opened (it : Nat)
  | requested (it : Nat)
  | closed (it : Nat)
  | invoked (ev : Ev)
  | returned (ev : Ev)
  | raised (e : Exc)
  deriving DecidableEq, Repr

/-- The value an observation hands to the caller of `__anext__`. -/
def Obs.returnedValue? : Obs Ev → Option Ev
  | .returned ev => some ev
  | _ => none

/-- The event an observation hands to the callback. -/
def Obs.invokedValue? : Obs Ev → Option Ev
  | .invoked ev => some ev
  | _ => none

/-- The values returned by `__anext__` along a trace. -/
def returnedValues (t : List (Obs Ev)) : List Ev := t.filterMap Obs.returnedValue?

/-- The events passed to the callback along a trace. -/
def invokedValues (t : List (Obs Ev)) : List Ev := t.filterMap Obs.invokedValue?

/-- The number of upstream elements requested along a trace. -/
def requests (t : List (Obs Ev)) : Nat := t.countP fun | .requested _ => true | _ => false

@[simp] theorem returnedValues_nil : returnedValues ([] : List (Obs Ev)) = [] := rfl

@[simp] theorem returnedValues_append (t t' : List (Obs Ev)) :
    returnedValues (t ++ t') = returnedValues t ++ returnedValues t' :=
  List.filterMap_append _ _ _

@[simp] theorem returnedValues_cons (o : Obs Ev) (t : List (Obs Ev)) :
    returnedValues (o :: t) = o.returnedValue?.toList ++ returnedValues t := by
  cases h : o.returnedValue? <;> simp [returnedValues, List.filterMap_cons, h]

@[simp] theorem invokedValues_nil : invokedValues ([] : List (Obs Ev)) = [] := rfl

@[simp] theorem invokedValues_append (t t' : List (Obs Ev)) :
    invokedValues (t ++ t') = invokedValues t ++ invokedValues t' :=
  List.filterMap_append _ _ _

@[simp] theorem invokedValues_cons (o : Obs Ev) (t : List (Obs Ev)) :
    invokedValues (o :: t) = o.invokedValue?.toList ++ invokedValues t := by
  cases h : o.invokedValue? <;> simp [invokedValues, List.filterMap_cons, h]

@[simp] theorem requests_nil : requests ([] : List (Obs Ev)) = 0 := rfl

@[simp] theorem requests_append (t t' : List (Obs Ev)) :
    requests (t ++ t') = requests t + requests t' :=
  List.countP_append _ _ _

@[simp] theorem requests_cons (o : Obs Ev) (t : List (Obs Ev)) :
    requests (o :: t) = (match o with | .requested _ => 1 | _ => 0) + requests t := by
  cases o <;> simp [requests, List.countP_cons, Nat.add_comm]

/-! ## The fields, `__aenter__` and `__aexit__` -/

/-- `_active`, `_iterator` and the counter. The iterator is named by the
    number of the `__aenter__` call that obtained it. -/
structure WState where
  active : Bool
  iterator : Option Nat
  count : Nat
  deriving DecidableEq, Repr

/-- The fields as `__init__` sets them (lines 164–166, 269–271, 359–361). -/
def WState.init : WState := ⟨false, none, 0⟩

/-- `__aenter__` (lines 168–176, 273–281, 363–372), obtaining upstream
    iterator `it`: `_active = True`, counter `0`, `_iterator = it`. -/
def aenter (it : Nat) : WState := ⟨true, some it, 0⟩

/-- `__aexit__` (lines 178–182, 283–287, 374–378): `_active = False`,
    `_iterator = None`. It returns `False`, so an exception leaving the
    `async with` block propagates. -/
def aexit (s : WState) : WState := { s with active := false, iterator := none }

@[simp] theorem aexit_active (s : WState) : (aexit s).active = false := rfl
@[simp] theorem aexit_iterator (s : WState) : (aexit s).iterator = none := rfl
@[simp] theorem aexit_count (s : WState) : (aexit s).count = s.count := rfl

/-! ## The first half of `__anext__` -/

/-- How the code before the `await` ends: it raises `StopAsyncIteration`, or
    it awaits the next element of upstream iterator `it`. -/
inductive Start where
  | stop
  | await (it : Nat)
  deriving DecidableEq, Repr

/-- `if not self._active or self._iterator is None: raise StopAsyncIteration`
    and `await self._iterator.__anext__()`. -/
def anextStart (s : WState) : Start :=
  match s.active, s.iterator with
  | true, some it => .await it
  | _, _ => .stop

/-- `ParameterSubscription.__anext__` before its `await` (lines 293–297). -/
def ParameterSubscription.anextStart : WState → Start := Streaming.anextStart

/-- `DeviceStateStream.__anext__` before its `await` (lines 384–388). -/
def DeviceStateStream.anextStart : WState → Start := Streaming.anextStart

/-- `self._max_frames and self._frame_count >= self._max_frames` (line 191):
    `None` and `0` are false in Python. -/
def maxFramesReached (maxFrames : Option Int) (count : Nat) : Bool :=
  match maxFrames with
  | some n => n != 0 && decide (n ≤ count)
  | none => false

/-- `FrameStream.__anext__` before its `await` (lines 188–195): the guard of
    `anextStart`, then the `max_frames` test. -/
def FrameStream.anextStart (maxFrames : Option Int) (s : WState) : Start :=
  match s.active, s.iterator with
  | true, some it => if maxFramesReached maxFrames s.count then .stop else .await it
  | _, _ => .stop

theorem anextStart_eq_await {s : WState} {it : Nat} :
    anextStart s = .await it ↔ s.active = true ∧ s.iterator = some it := by
  rcases s with ⟨_ | _, _ | _, _⟩ <;> simp [anextStart, eq_comm]

theorem FrameStream.anextStart_eq_await {maxFrames : Option Int} {s : WState} {it : Nat} :
    FrameStream.anextStart maxFrames s = .await it ↔
      s.active = true ∧ s.iterator = some it ∧ maxFramesReached maxFrames s.count = false := by
  rcases s with ⟨_ | _, _ | _, _⟩ <;> simp only [FrameStream.anextStart]
  all_goals (try split) <;> simp_all

/-! ## The second half of `__anext__` -/

/-- The end of a call that decoded `ev` (lines 210–215): after the counter is
    incremented, the callback, if there is one, is called on `ev` and does
    `cb`; then `ev` is returned. -/
def deliver (callback : Bool) (cb : Except Exc Unit) (ev : Ev) : List (Obs Ev) :=
  if callback then
    match cb with
    | .ok () => [.invoked ev, .returned ev]
    | .error e => [.invoked ev, .raised e]
  else [.returned ev]

/-- The code after `await self._iterator.__anext__()` (lines 196–215 of
    `FrameStream.__anext__`, 298–315, 389–394), once the upstream answered
    `ans`: `none` is the upstream raising `StopAsyncIteration`, which clears
    `_active` and propagates; otherwise the element is decoded and, if that
    succeeds, the counter is incremented and the event delivered. -/
def anextResume (decode : Raw → Except Exc Ev) (callback : Bool) (s : WState)
    (ans : Option Raw) (cb : Except Exc Unit) : WState × List (Obs Ev) :=
  match ans with
  | none => ({ s with active := false }, [.raised .stopAsyncIteration])
  | some raw =>
    match decode raw with
    | .error e => (s, [.raised e])
    | .ok ev => ({ s with count := s.count + 1 }, deliver callback cb ev)

theorem anextResume_cases (decode : Raw → Except Exc Ev) (callback : Bool) (s : WState)
    (ans : Option Raw) (cb : Except Exc Unit) :
    (ans = none ∧
      anextResume decode callback s ans cb =
        ({ s with active := false }, [.raised .stopAsyncIteration])) ∨
    (∃ raw e, ans = some raw ∧ decode raw = .error e ∧
      anextResume decode callback s ans cb = (s, [.raised e])) ∨
    (∃ raw ev, ans = some raw ∧ decode raw = .ok ev ∧
      anextResume decode callback s ans cb =
        ({ s with count := s.count + 1 }, deliver callback cb ev)) := by
  rcases ans with _ | raw
  · simp [anextResume]
  · cases h : decode raw <;> simp [anextResume, h]

@[simp] theorem anextResume_iterator (decode : Raw → Except Exc Ev) (callback : Bool)
    (s : WState) (ans : Option Raw) (cb : Except Exc Unit) :
    (anextResume decode callback s ans cb).1.iterator = s.iterator := by
  rcases anextResume_cases decode callback s ans cb with ⟨-, h⟩ | ⟨_, _, -, -, h⟩ | ⟨_, _, -, -, h⟩ <;>
    simp [h]

theorem anextResume_active_le (decode : Raw → Except Exc Ev) (callback : Bool)
    (s : WState) (ans : Option Raw) (cb : Except Exc Unit) :
    (anextResume decode callback s ans cb).1.active = true → s.active = true := by
  rcases anextResume_cases decode callback s ans cb with ⟨-, h⟩ | ⟨_, _, -, -, h⟩ | ⟨_, _, -, -, h⟩ <;>
    simp [h]

theorem returnedValues_deliver (callback : Bool) (cb : Except Exc Unit) (ev : Ev) :
    returnedValues (deliver callback cb ev) = if callback then cb.toOption.map (fun _ => ev) |>.toList
      else [ev] := by
  unfold deliver
  split
  · rcases cb with _ | ⟨⟩ <;> simp [Obs.returnedValue?, Except.toOption]
  · simp [Obs.returnedValue?]

theorem returnedValues_anextResume_length_le (decode : Raw → Except Exc Ev) (callback : Bool)
    (s : WState) (ans : Option Raw) (cb : Except Exc Unit) :
    (returnedValues (anextResume decode callback s ans cb).2).length ≤ 1 := by
  rcases anextResume_cases decode callback s ans cb with ⟨-, h⟩ | ⟨_, _, -, -, h⟩ | ⟨_, _, -, -, h⟩ <;>
    simp only [h, returnedValues_deliver]
  · simp [Obs.returnedValue?]
  · simp [Obs.returnedValue?]
  · split
    · cases cb.toOption <;> simp
    · simp

theorem requests_deliver (callback : Bool) (cb : Except Exc Unit) (ev : Ev) :
    requests (deliver callback cb ev) = 0 := by
  unfold deliver
  split
  · rcases cb with _ | ⟨⟩ <;> rfl
  · rfl

theorem requests_anextResume (decode : Raw → Except Exc Ev) (callback : Bool)
    (s : WState) (ans : Option Raw) (cb : Except Exc Unit) :
    requests (anextResume decode callback s ans cb).2 = 0 := by
  rcases anextResume_cases decode callback s ans cb with ⟨-, h⟩ | ⟨_, _, -, -, h⟩ | ⟨_, _, -, -, h⟩ <;>
    simp [h, requests_deliver]

/-- Without a callback, the second half of `__anext__` counts exactly the
    event it returns. -/
theorem anextResume_count_of_no_callback (decode : Raw → Except Exc Ev) (s : WState)
    (ans : Option Raw) (cb : Except Exc Unit) :
    (anextResume decode false s ans cb).1.count =
      s.count + (returnedValues (anextResume decode false s ans cb).2).length := by
  rcases anextResume_cases decode false s ans cb with ⟨-, e⟩ | ⟨_, _, -, -, e⟩ | ⟨_, _, -, -, e⟩ <;>
    simp [e, deliver, Obs.returnedValue?]

/-! ## The three classes -/

/-- A stream wrapper, by the parts of `__anext__` in which the classes
    differ: the code before the `await`, the decoder, and whether a callback
    was given. `start_await` is the guard every class shares: a call awaits
    only the iterator the wrapper holds, and only while it is active. -/
structure Wrapper (Raw Ev : Type) where
  start : WState → Start
  decode : Raw → Except Exc Ev
  callback : Bool
  start_await : ∀ {s : WState} {it : Nat}, start s = .await it →
    s.active = true ∧ s.iterator = some it

/-- The second half of the wrapper's `__anext__`. -/
def Wrapper.resume (W : Wrapper Raw Ev) : WState → Option Raw → Except Exc Unit →
    WState × List (Obs Ev) :=
  anextResume W.decode W.callback

/-- `FrameStream(client, device_id, include_pixel_data, max_frames, on_frame)`;
    `onFrame` says whether `on_frame` is given. `device_id` and
    `include_pixel_data` only choose the upstream, which the model leaves
    arbitrary. -/
def FrameStream (maxFrames : Option Int) (onFrame : Bool) : Wrapper RawFrame Frame where
  start := FrameStream.anextStart maxFrames
  decode := Frame.ofRaw
  callback := onFrame
  start_await h := by
    have := FrameStream.anextStart_eq_await.1 h
    exact ⟨this.1, this.2.1⟩

/-- `ParameterSubscription(client, device_id, parameter_names, on_change)`;
    `onChange` says whether `on_change` is given. The filters only choose the
    upstream. -/
def ParameterSubscription (onChange : Bool) : Wrapper RawChange ParameterChange where
  start := ParameterSubscription.anextStart
  decode := ParameterChange.ofRaw
  callback := onChange
  start_await h := anextStart_eq_await.1 h

/-- `DeviceStateStream(client, device_ids, max_rate_hz, include_snapshot)`: it
    returns each upstream element as it is, and has no callback. -/
def DeviceStateStream (Update : Type) : Wrapper Update Update where
  start := DeviceStateStream.anextStart
  decode := .ok
  callback := false
  start_await h := anextStart_eq_await.1 h

end RustDaq.Streaming
