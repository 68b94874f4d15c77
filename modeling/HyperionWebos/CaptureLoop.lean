import HyperionWebos.FrameBlend
import HyperionWebos.Overreads

/-! The loop of `unicapture_run` with its frames. An iteration makes the steps of the
capture state, converts, grades and blends what was acquired, hands the result to the
callback and counts it. A read past the end of a block takes whatever lies there; what
the backends return and fill in, and what lies there, comes with the iteration. -/

namespace HyperionWebos.CaptureLoop
open Runs Unicapture ByteBlocks FrameConversion FrameBlend Overreads

/-- What pixels are that take a read past the end of a block. -/
structure Beyond where
  ui : Nat → Nat → Pixel 4
  video : Nat → Nat → Pixel 4
  blended : Nat → Nat → Pixel 4

/-- The conversion of either frame; the UI frame has no table. -/
def convertOver (yuv : Libyuv) (whatever : Nat → Nat → Pixel 4) (lutTable : Option Memory)
    (this : Converter) (frame : FrameInfo Memory) : Except Fault (Converter × FrameInfo Block) :=
  if frame.pixelFormat ≠ .invalid then do
    let r ← converterRunOver yuv whatever this frame blankFrame .argb
    match lutTable with
    | none => .ok (r.this, r.output)
    | some table =>
      let plane ← lutLoop table r.output.plane0.buffer
        (wrap (wrap (r.output.width * r.output.height) * 4))
      .ok (r.this.setImage plane,
        { r.output with plane0 := { r.output.plane0 with buffer := plane } })
  else .ok (this, blankFrame)

def sendBlendedOver (yuv : Libyuv) (whatever : Nat → Nat → Pixel 4) (s : Buffers)
    (ui video : FrameInfo Block) : Except Fault (Buffers × Option Delivery) := do
  let width := video.width
  let height := video.height
  let blended ← s.blendedFrame.realloc (wrap (wrap (width * height) * 4))
  let final ← s.finalFrame.realloc (wrap (wrap (width * height) * 3))
  let blended ← draw blended (wrap (4 * width)) width.toNat height.toNat
    (settle whatever (blendPixel yuv ui.plane0 video.plane0))
  let final ← draw final (wrap (3 * width)) width.toNat height.toNat
    (rgb24Pixel yuv ⟨blended, wrap (4 * width)⟩)
  .ok ({ s with blendedFrame := blended, finalFrame := final }, some ⟨width, height, final⟩)

def sendFramesOver (yuv : Libyuv) (whatever : Nat → Nat → Pixel 4) (s : Buffers)
    (ui video : FrameInfo Block) : Except Fault (Buffers × Option Delivery) :=
  if video.pixelFormat ≠ .invalid ∧ ui.pixelFormat ≠ .invalid then
    sendBlendedOver yuv whatever s ui video
  else sendFrames yuv s ui video

def processFramesOver (yuv : Libyuv) (lutTable : Option Memory) (beyond : Beyond) (s : Buffers)
    (ui video : FrameInfo Memory) : Except Fault (Buffers × Option Delivery) := do
  let ui ← convertOver yuv beyond.ui none s.uiConverter ui
  let video ← convertOver yuv beyond.video lutTable s.videoConverter video
  sendFramesOver yuv beyond.blended { s with uiConverter := ui.1, videoConverter := video.1 } ui.2
    video.2

/-- The loop between two iterations; `sent` are the calls of the callback. -/
structure Loop where
  capture : Capture
  lastStart : Side → UInt64
  buffers : Buffers
  framecounter : UInt64
  sent : List Delivery

/-- `frame` is what `acquire_frame` fills in. -/
structure FrameIteration where
  now : UInt64
  start : Side → Int
  acquire : Side → Int
  frame : Side → FrameInfo Memory
  beyond : Beyond

def FrameIteration.toIteration (it : FrameIteration) : Iteration :=
  ⟨it.now, it.start, it.acquire, fun side => (it.frame side).pixelFormat⟩

def Loop.start (c : Capture) : Loop := ⟨c, fun _ => 0, initialBuffers, 0, []⟩

/-- One iteration; `callback` says that one is set. -/
def loopIteration (yuv : Libyuv) (lutTable : Option Memory) (callback : Bool) (l : Loop)
    (it : FrameIteration) : Except Fault Loop := do
  let (lastStart, c) := attemptStart it.toIteration .ui l.lastStart l.capture
  let (lastStart, c) := attemptStart it.toIteration .video lastStart c
  let (uiFormat, c) := acquireUi it.toIteration c
  let (videoFormat, c) := acquireVideo it.toIteration c
  let (buffers, delivery) ← processFramesOver yuv lutTable it.beyond l.buffers
    { it.frame .ui with pixelFormat := uiFormat }
    { it.frame .video with pixelFormat := videoFormat }
  let sent := if callback then delivery.toList else []
  let c := release .ui uiFormat c
  let c := release .video videoFormat c
  let framecounter := if delivery.isSome then l.framecounter + 1 else l.framecounter
  .ok ⟨c, lastStart, buffers, framecounter, l.sent ++ sent⟩

/-! ### Against the other models -/

section Models

variable {yuv : Libyuv} {lutTable : Option Memory} {s : Buffers} {beyond : Beyond}
  {whatever : Nat → Nat → Pixel 4}

theorem convertOver_of_video {this : Converter} {frame : FrameInfo Memory}
    {r : Converter × FrameInfo Block} (ran : convertVideo yuv lutTable this frame = .ok r) :
    convertOver yuv whatever lutTable this frame = .ok r := by
  unfold convertVideo at ran
  unfold convertOver
  split
  · rename_i valid
    rw [if_pos valid] at ran
    obtain ⟨r', converted, rest⟩ := bind_eq_ok.mp ran
    exact bind_eq_ok.mpr ⟨r', converterRunOver_of_ok converted, rest⟩
  · rename_i invalid
    rw [if_neg invalid] at ran
    exact ran

theorem convertOver_of_ui {this : Converter} {frame : FrameInfo Memory}
    {r : Converter × FrameInfo Block} (ran : convertUi yuv this frame = .ok r) :
    convertOver yuv whatever none this frame = .ok r :=
  convertOver_of_video ran

theorem sendFramesOver_of_ok {ui video : FrameInfo Block} {r : Buffers × Option Delivery}
    (ran : sendFrames yuv s ui video = .ok r) :
    sendFramesOver yuv whatever s ui video = .ok r := by
  unfold sendFramesOver
  split
  · rename_i both
    unfold sendFrames at ran
    rw [if_pos both] at ran
    obtain ⟨b₀, granted, f₀, granted', blended, drawn, final, packed, rfl⟩ :=
      sendBlended_eq_ok.mp ran
    exact bind_eq_ok.mpr ⟨b₀, granted, bind_eq_ok.mpr ⟨f₀, granted', bind_eq_ok.mpr
      ⟨blended, draw_settle drawn, bind_eq_ok.mpr ⟨final, packed, rfl⟩⟩⟩⟩
  · exact ran

theorem processFramesOver_of_ok {ui video : FrameInfo Memory} {r : Buffers × Option Delivery}
    (ran : processFrames yuv lutTable s ui video = .ok r) :
    processFramesOver yuv lutTable beyond s ui video = .ok r := by
  obtain ⟨cu, uiRan, ran⟩ := bind_eq_ok.mp ran
  obtain ⟨cv, videoRan, sent⟩ := bind_eq_ok.mp ran
  exact bind_eq_ok.mpr ⟨cu, convertOver_of_ui uiRan, bind_eq_ok.mpr
    ⟨cv, convertOver_of_video videoRan, sendFramesOver_of_ok sent⟩⟩

theorem loopIteration_capture {callback : Bool} {it : FrameIteration} {l l' : Loop}
    (ran : loopIteration yuv lutTable callback l it = .ok l') :
    { l'.capture with phase := .looping l'.lastStart } =
      runIteration it.toIteration l.lastStart l.capture := by
  unfold loopIteration at ran
  unfold runIteration
  obtain ⟨⟨buffers, delivery⟩, -, done⟩ := bind_eq_ok.mp ran
  cases done
  rfl

end Models

end HyperionWebos.CaptureLoop
