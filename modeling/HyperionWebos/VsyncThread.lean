import HyperionWebos.Runs
import HyperionWebos.Unicapture

/-! `unicapture_vsync_handler` beside `unicapture_run`, at the grain of their reads and
writes of the flags and their calls into the video backend. `wait` and `acquire_frame`
take two steps, one where the call begins and one where it returns; a terminate is logged
where it begins and a start or init where it returns. `vsync` and the backend's pointers
do not change while the threads exist; `now` and `lastVideoStart` are the run's locals.
The UI side touches none of these flags and frames are not followed further than their
release. -/

namespace HyperionWebos.VsyncThread
open Unicapture

inductive VideoCall where
  | init (ret : Int)
  | start (ret : Int)
  | terminate
  | wait
  | acquireFrame
  | releaseFrame
  | cleanup
deriving DecidableEq, Repr

/-- Where `unicapture_run` stands. `check` is the read of `video_capture_running` after
`pthread_cond_wait`; `stopped` and `lastStopped` lie between a terminate and the write of
the flag. -/
inductive RunPhase where
  | absent
  | created
  | spawn
  | head
  | gate
  | start
  | started
  | wait
  | check
  | acquire
  | acquiring
  | terminate
  | stopped
  | frame
  | shutdown
  | join
  | lastCheck
  | lastTerminate
  | lastStopped
  | cleanup
deriving DecidableEq, Repr

inductive VsyncPhase where
  | absent
  | head
  | test
  | wait
  | waiting
  | terminate
  | stopped
  | pause
  | signal
  | ended
deriving DecidableEq, Repr

structure Video where
  vsync : Bool
  hasWait : Bool
  present : Bool
  running : Bool
  captureRunning : Bool
  initialized : Bool
  vsyncThreadRunning : Bool
  signalled : Bool
  now : UInt64
  lastVideoStart : UInt64
  run : RunPhase
  handler : VsyncPhase
  calls : List VideoCall

/-- What the clock, a call that returns and `pthread_cond_wait` answer at one step; a
wait on a condition may also end without a signal. -/
structure Outcome where
  now : UInt64
  ret : Int
  format : PixelFormat
  spurious : Bool

inductive Event where
  | start
  | stop
  | run (o : Outcome)
  | handler (ret : Int)

def Video.call (b : VideoCall) (s : Video) : Video := { s with calls := s.calls ++ [b] }

/-- `unicapture_start`; `unicapture_stop` has joined any earlier thread. -/
def captureStart (s : Video) : Video :=
  if s.running then s
  else if s.run = .absent then { s with running := true, run := .created }
  else s

/-- Entering `pthread_cond_wait`. -/
def enterWait (s : Video) : Video := { s with signalled := false, run := .wait }

def runStep (o : Outcome) (s : Video) : Video :=
  match s.run with
  | .absent => s
  | .created =>
    if s.present && !s.initialized then
      { s.call (.init o.ret) with initialized := decide (o.ret = 0), run := .spawn }
    else { s with run := .spawn }
  | .spawn =>
    { s with lastVideoStart := 0, vsyncThreadRunning := true, handler := .head, run := .head }
  | .head =>
    if s.running then { s with now := o.now, run := .gate } else { s with run := .shutdown }
  | .gate =>
    if decide (s.now - s.lastVideoStart > 1000000) && s.present && !s.captureRunning then
      { s with lastVideoStart := s.now, run := .start }
    else enterWait s
  | .start =>
    if o.ret = 0 then { s.call (.start o.ret) with run := .started }
    else enterWait (s.call (.start o.ret))
  | .started => enterWait { s with captureRunning := true }
  | .wait => if s.signalled || o.spurious then { s with run := .check } else s
  | .check => { s with run := if s.captureRunning then .acquire else .head }
  | .acquire => { s.call .acquireFrame with run := .acquiring }
  | .acquiring =>
    if o.ret ≠ 0 then { s with run := if o.ret = -99 then .terminate else .head }
    else { s with run := if o.format ≠ .invalid then .frame else .head }
  | .terminate => { s.call .terminate with run := .stopped }
  | .stopped => { s with captureRunning := false, run := .head }
  | .frame => { s.call .releaseFrame with run := .head }
  | .shutdown =>
    if s.vsyncThreadRunning then { s with vsyncThreadRunning := false, run := .join }
    else { s with run := .lastCheck }
  | .join => if s.handler = .ended then { s with handler := .absent, run := .lastCheck } else s
  | .lastCheck => { s with run := if s.captureRunning then .lastTerminate else .cleanup }
  | .lastTerminate => { s.call .terminate with run := .lastStopped }
  | .lastStopped => { s with captureRunning := false, run := .cleanup }
  | .cleanup =>
    if s.present && s.initialized then
      { s.call .cleanup with initialized := false, run := .absent }
    else { s with run := .absent }

/-- `unicapture_vsync_handler`; `ret` is what a `wait` under way returns. -/
def handlerStep (ret : Int) (s : Video) : Video :=
  match s.handler with
  | .absent | .ended => s
  | .head => { s with handler := if s.vsyncThreadRunning then .test else .ended }
  | .test =>
    { s with handler := if s.vsync && s.captureRunning && s.hasWait then .wait else .pause }
  | .wait => { s.call .wait with handler := .waiting }
  | .waiting => { s with handler := if ret = -99 then .terminate else .signal }
  | .terminate => { s.call .terminate with handler := .stopped }
  | .stopped => { s with captureRunning := false, handler := .signal }
  | .pause => { s with handler := .signal }
  | .signal => { s with signalled := true, handler := .head }

def step (s : Video) : Event → Except Empty Video
  | .start => .ok (captureStart s)
  | .stop => .ok { s with running := false }
  | .run o => .ok (runStep o s)
  | .handler ret => .ok (handlerStep ret s)

def boot (vsync hasWait present initialized : Bool) : Video where
  vsync := vsync
  hasWait := hasWait
  present := present
  running := false
  captureRunning := false
  initialized := initialized
  vsyncThreadRunning := false
  signalled := false
  now := 0
  lastVideoStart := 0
  run := .absent
  handler := .absent
  calls := []

end HyperionWebos.VsyncThread
