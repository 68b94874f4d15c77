import HyperionWebos.Unicapture
import Mathlib.Tactic.SplitIfs

/-! `capture_wait` and `capture_acquire_frame` of `libvtcapture.cpp`. The vsync thread
waits until the driver's current buffer is another one than `curr_buff`, the capture
thread acquires what is current by then. Each call is one step; the driver answers every
query as it likes. -/

namespace HyperionWebos.VtcaptureWait
open Unicapture

/-- `_LibVtCaptureBufferInfo`, as far as it is read. -/
structure BufferInfo where
  startAddr0 : Nat
  startAddr1 : Nat
deriving DecidableEq, Repr

/-- What `vtCapture_currentCaptureBuffInfo` returns and leaves in the caller's buffer info. -/
structure Query where
  ret : Int
  buff : BufferInfo
deriving DecidableEq, Repr

structure BackendState where
  width : Int
  height : Int
  stride : Int
  buff : BufferInfo
  currBuff : Nat
  terminate : Bool
  quirkForceCapture : Bool
deriving DecidableEq, Repr

/-- `frame` is written only on success. -/
def captureAcquireFrame (q : Query) (s : BackendState) :
    Int × Option (FrameInfo Nat) × BackendState :=
  if q.ret = 2 then (-1, none, s)
  else if q.ret = 13 then (-99, none, s)
  else if q.ret ≠ 0 then (-1, none, s)
  else
    (0, some {
      pixelFormat := .yuv420SemiPlanar
      width := s.width
      height := s.height
      plane0 := ⟨q.buff.startAddr0, s.stride⟩
      plane1 := ⟨q.buff.startAddr1, s.stride⟩ },
    -- the wait's buffer info, not the one just acquired
    { s with currBuff := s.buff.startAddr0 })

def maxAttempts : Nat := 1000000 / 100

/-- The calls made on a backend; `start` is a `capture_start` that gets as far as the
plane's size and clearing `terminate`. -/
inductive Call where
  | wait (opens : Bool) (driver : Nat → Query)
  | acquire (q : Query)
  | start (width height stride : Int)
  | terminate

structure Watched where
  backend : BackendState
  delivered : Option Nat
deriving DecidableEq, Repr

/-- After the `calloc` of `capture_init`. -/
def fresh (quirkForceCapture : Bool) : Watched :=
  ⟨⟨0, 0, 0, ⟨0, 0⟩, 0, false, quirkForceCapture⟩, none⟩

/-- The answer that ends a wait which takes `held` for the buffer it has seen and has `n` more
attempts: the first that is another address or a failure, or else the last. -/
def lastAnswer (held : Nat) (driver : Nat → Query) (i : Nat) : Nat → Query
  | 0 => driver i
  | n + 1 => if (driver i).ret = 0 ∧ (driver i).buff.startAddr0 = held then
      lastAnswer held driver (i + 1) n
    else driver i

/-- The driver's answers in the order of the calls. `told` is the address in the last answer to
a wait, `held` what it was when a wait last ended well or a frame was last acquired, `frame`
the address that the driver gave for that frame. -/
structure Answers where
  told : Nat
  held : Nat
  frame : Option Nat
  terminate : Bool

def Answers.none : Answers := ⟨0, 0, Option.none, false⟩

def Answers.after (a : Answers) : Call → Answers
  | .wait _ driver =>
    if a.terminate then { a with held := a.told }
    else
      let last := lastAnswer a.held driver 0 (maxAttempts - 1)
      { a with
        told := last.buff.startAddr0
        held := if last.ret = 0 then last.buff.startAddr0 else a.held }
  | .acquire q =>
    if q.ret = 0 then { a with held := a.told, frame := some q.buff.startAddr0 } else a
  | .start _ _ _ => { a with terminate := false }
  | .terminate => { a with terminate := true }

/-- The driver ends a wait with the address of the frame last acquired, while the answers
before held another one. -/
def Answers.Repeats (a : Answers) : Call → Prop
  | .wait _ driver => a.terminate = false ∧ (lastAnswer a.held driver 0 (maxAttempts - 1)).ret = 0 ∧
      a.frame = some (lastAnswer a.held driver 0 (maxAttempts - 1)).buff.startAddr0 ∧
      (lastAnswer a.held driver 0 (maxAttempts - 1)).buff.startAddr0 ≠ a.held
  | _ => False

/-- The backend's variables are what the driver's answers make of them: `buff` has what a wait
was told last, and `curr_buff` what that was at the last wait that ended well or the last
frame, whatever address that frame has. -/
structure Tracks (a : Answers) (w : Watched) : Prop where
  told : w.backend.buff.startAddr0 = a.told
  held : w.backend.currBuff = a.held
  frame : w.delivered = a.frame
  terminate : w.backend.terminate = a.terminate

end HyperionWebos.VtcaptureWait
