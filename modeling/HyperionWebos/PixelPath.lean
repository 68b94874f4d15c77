import HyperionWebos.FrameAccounting
import HyperionWebos.OutgoingFrames
import HyperionWebos.Registration

/-! From the screen to the server. `unicapture_run` hands its frame to `service_feed_frame`,
which hands it to `hyperion_set_image`. What a registered connection is given to write is,
picture by picture, what the captured frames show: the video graded with the table, the UI
blended over it, row by row in RGB, whatever buffers, clocks, reads and writes do. -/

namespace HyperionWebos.PixelPath
open Runs Unicapture ByteBlocks FrameConversion FrameBlend CaptureLoop FrameAccounting
  HyperionClient OutgoingFrames LengthFrames

structure Picture where
  width : Nat
  height : Nat
  pixel : Nat → Nat → Pixel 3

def Picture.bytes (q : Picture) : List UInt8 :=
  (List.range (3 * (q.width * q.height))).map fun i =>
    byte (q.pixel (i / 3 % q.width) (i / 3 / q.width)) (i % 3)

def Picture.request (q : Picture) : Request := .image q.bytes q.width q.height

def seen (yuv : Libyuv) (f : FrameInfo Memory) (x y : Nat) : Pixel 4 :=
  (argbAt yuv f x y).getD fun _ => 0

/-- What two captured frames show together; one that was not captured has no format. -/
def picture (yuv : Libyuv) (lutTable : Option Memory) (ui video : FrameInfo Memory) :
    Option Picture :=
  if video.pixelFormat ≠ .invalid then
    some ⟨video.width.toNat, video.height.toNat, fun x y =>
      let below := graded lutTable (seen yuv video x y)
      yuv.argbToRgb24
        (if ui.pixelFormat ≠ .invalid then yuv.argbBlend (seen yuv ui x y) below else below)⟩
  else if ui.pixelFormat ≠ .invalid then
    some ⟨ui.width.toNat, ui.height.toNat, fun x y => yuv.argbToRgb24 (seen yuv ui x y)⟩
  else none

/-! ### The pipeline -/

/-- The bytes that `hyperion_set_image` takes into its message. -/
def imageBytes (d : Delivery) : List UInt8 :=
  (List.range (wrap (wrap (d.width * d.height) * 3)).toNat).map d.rgbData.bytes

def requestOf (d : Delivery) : Request := .image (imageBytes d) d.width d.height

def serviceFeedFrame (header body : WriteOutcome) (c : Client) (d : Delivery) : Client :=
  (hyperionSetImage (imageBytes d) d.width d.height header body c).2

structure Pipeline where
  loop : Loop
  client : Client

inductive Event where
  | iteration (it : FrameIteration) (header body : WriteOutcome)
  | read (stack : Fin 4 → UInt8) (header body : ReadOutcome)

def step (codec : Codec) (yuv : Libyuv) (lutTable : Option Memory) (p : Pipeline) :
    Event → Except Fault Pipeline
  | .iteration it header body => do
    let loop ← loopIteration yuv lutTable true p.loop it
    .ok ⟨loop, (loop.sent.drop p.loop.sent.length).foldl (serviceFeedFrame header body) p.client⟩
  | .read stack header body =>
    .ok { p with client := (hyperionRead codec stack header body p.client).2 }

def acquired (l : Loop) (it : FrameIteration) (side : Side) : FrameInfo Memory :=
  (acquireBoth it.toIteration l.lastStart l.capture).frame it side

def pictures (yuv : Libyuv) (lutTable : Option Memory) (shown : List Picture) (p : Pipeline)
    (e : Event) (_ : Pipeline) : List Picture :=
  match e with
  | .iteration it _ _ =>
    shown ++ (picture yuv lutTable (acquired p.loop it .ui) (acquired p.loop it .video)).toList
  | .read .. => shown

/-- What `acquire_frame` fills in when it returns 0: an image of a supported format and of
a size that fits; and a UI frame that covers the video frame. -/
structure Usable (it : FrameIteration) : Prop where
  frame : ∀ side, it.acquire side = 0 → Supported (it.frame side).pixelFormat ∧
    0 < (it.frame side).width ∧ 0 < (it.frame side).height ∧ Fits (it.frame side)
  covers : it.acquire .ui = 0 → it.acquire .video = 0 →
    (it.frame .video).width ≤ (it.frame .ui).width ∧
      (it.frame .video).height ≤ (it.frame .ui).height

@[simp] def Event.Usable : Event → Prop
  | .iteration it _ _ => PixelPath.Usable it
  | .read .. => True

@[simp] def Event.Written : Event → Prop
  | .iteration _ header body => header = .all ∧ body = .all
  | .read .. => True

section Pictures

variable {yuv : Libyuv} {lutTable : Option Memory} {s : Buffers} {ui video : FrameInfo Memory}
  {d : Delivery} {q : Picture}

theorem imageBytes_eq (width : d.width = q.width) (height : d.height = q.height)
    (small : 4 * (q.width * q.height : Int) < 2147483648)
    (loads : ∀ x < q.width, ∀ y < q.height,
      d.rgbData.load 3 (y * (3 * q.width) + 3 * x) = .ok (q.pixel x y)) :
    imageBytes d = q.bytes := by
  have area := area_nonneg q.width q.height
  have pixels : wrap (q.width * q.height) = q.width * q.height := wrap_of_small area (by omega)
  have size : (wrap (wrap (d.width * d.height) * 3)).toNat = 3 * (q.width * q.height) := by
    rw [width, height, pixels, wrap_of_small (by omega) (by omega)]
    have : ((q.width * q.height : Nat) : Int) = q.width * q.height := Nat.cast_mul _ _
    omega
  unfold imageBytes Picture.bytes
  rw [size]
  refine List.map_congr_left fun i member => ?_
  have inside : i / 3 < q.width * q.height := by
    have := List.mem_range.mp member
    omega
  have someColumn : 0 < q.width := Nat.pos_of_mul_pos_right (Nat.zero_lt_of_lt inside)
  have load := loads (i / 3 % q.width) (Nat.mod_lt _ someColumn) (i / 3 / q.width)
    (Nat.div_lt_of_lt_mul inside)
  have place : ((i / 3 / q.width : Nat) * (3 * q.width) + 3 * (i / 3 % q.width : Nat) : Int) =
      (3 * (i / 3) : Nat) := by
    have rows : i / 3 = q.width * (i / 3 / q.width) + i / 3 % q.width :=
      (Nat.div_add_mod _ _).symm
    conv_rhs => rw [rows]
    push_cast
    ring
  rw [place] at load
  have pixel := congrFun (Block.load_eq_ok.mp load).2 ⟨i % 3, Nat.mod_lt i (by decide)⟩
  rw [byte, dif_pos (Nat.mod_lt i (by decide)), ← pixel, Block.pixelAt, Int.toNat_natCast,
    Nat.div_add_mod]

theorem seen_of_argbAt {f : FrameInfo Memory} {x y : Nat} {p : Pixel 4}
    (here : argbAt yuv f x y = some p) : seen yuv f x y = p := by
  unfold seen
  rw [here]
  rfl

structure Good (f : FrameInfo Memory) : Prop where
  supported : Supported f.pixelFormat
  width : 0 < f.width
  height : 0 < f.height
  fits : Fits f

theorem Good.size {f : FrameInfo Memory} (good : Good f) :
    (f.width.toNat : Int) = f.width ∧ (f.height.toNat : Int) = f.height :=
  ⟨Int.toNat_of_nonneg good.width.le, Int.toNat_of_nonneg good.height.le⟩

theorem Good.converts {f : FrameInfo Memory} (good : Good f) (yuv : Libyuv) (this : Converter) :
    ∃ r, converterRun yuv this f blankFrame .argb = .ok r ∧ r.ret = 0 :=
  converterRun_succeeds good.supported good.width good.height good.fits

theorem request_of_loads {f : FrameInfo Memory} (good : Good f) {pixel : Nat → Nat → Pixel 3}
    (width : d.width = f.width) (height : d.height = f.height)
    (loads : ∀ x y : Nat, (x : Int) < f.width → (y : Int) < f.height →
      d.rgbData.load 3 (y * (3 * f.width) + 3 * x) = .ok (pixel x y)) :
    requestOf d = Picture.request ⟨f.width.toNat, f.height.toNat, pixel⟩ := by
  obtain ⟨columns, rows⟩ := good.size
  have small := good.fits.1
  have same : imageBytes d = Picture.bytes ⟨f.width.toNat, f.height.toNat, pixel⟩ := by
    refine imageBytes_eq (width.trans columns.symm) (height.trans rows.symm) ?_ ?_
    · dsimp only
      rw [columns, rows]
      exact small
    · intro x column y row
      dsimp only at column row ⊢
      rw [columns]
      exact loads x y (by omega) (by omega)
  unfold requestOf Picture.request
  rw [same, width, height]
  dsimp only
  rw [columns, rows]

theorem processFrames_over (yuv : Libyuv) (lutTable : Option Memory) (s : Buffers)
    (uiGood : Good ui) (videoGood : Good video) (narrow : video.width ≤ ui.width)
    (low : video.height ≤ ui.height) :
    ∃ r d, processFrames yuv lutTable s ui video = .ok r ∧ r.2 = some d ∧
      d.width = video.width ∧ d.height = video.height ∧
      ∀ x y : Nat, (x : Int) < video.width → (y : Int) < video.height →
        d.rgbData.load 3 (y * (3 * video.width) + 3 * x) = .ok (yuv.argbToRgb24
          (yuv.argbBlend (seen yuv ui x y) (graded lutTable (seen yuv video x y)))) := by
  obtain ⟨ru, uiRan, uiSuccess⟩ := uiGood.converts yuv s.uiConverter
  obtain ⟨rv, videoRan, videoSuccess⟩ := videoGood.converts yuv s.videoConverter
  obtain ⟨cu, uiDone, uiFrame⟩ :=
    convertUi_converted uiGood.width uiGood.height uiRan uiSuccess
  obtain ⟨cv, videoDone, videoFrame⟩ :=
    convertVideo_converted lutTable videoGood.width videoGood.height videoRan videoSuccess
  have both := processFrames_both uiDone videoDone uiFrame videoFrame
  obtain ⟨uw, uh⟩ := uiGood.size
  obtain ⟨vw, vh⟩ := videoGood.size
  have someColumn := videoGood.width
  have someRow := videoGood.height
  rw [← uw, ← uh] at uiFrame
  rw [← vw, ← vh] at videoFrame
  obtain ⟨r, ran⟩ := (sendBlended_runs_iff (by omega) (by omega) uiFrame videoFrame).mpr
    (covered (by omega) (by omega))
  obtain ⟨d, delivered, width, height, _, pixels⟩ :=
    sendBlended_pixel (by omega) uiFrame videoFrame ran
  rw [vw] at width
  rw [vh] at height
  refine ⟨r, d, both.trans ran, delivered, width, height, fun x y column row => ?_⟩
  have atUi := uiFrame.shows x y (by omega) (by omega)
  have atVideo := videoFrame.shows x y (by omega) (by omega)
  obtain ⟨b, bare, same⟩ := Option.map_eq_some_iff.mp atVideo
  have load := pixels x (by omega) y (by omega) _ _ atUi (by omega) (by omega) atVideo
  rw [← same, vw] at load
  rw [seen_of_argbAt atUi, seen_of_argbAt bare]
  exact load

theorem processFrames_nothing (yuv : Libyuv) (lutTable : Option Memory) (s : Buffers)
    (noUi : ui.pixelFormat = .invalid)
    (noVideo : video.pixelFormat = .invalid) :
    ∃ r, processFrames yuv lutTable s ui video = .ok r ∧ r.2 = none := by
  unfold processFrames convertUi convertVideo
  rw [noUi, noVideo]
  exact ⟨_, rfl, rfl⟩

theorem processFrames_picture (yuv : Libyuv) (lutTable : Option Memory) (s : Buffers)
    (uiGood : ui.pixelFormat ≠ .invalid → Good ui)
    (videoGood : video.pixelFormat ≠ .invalid → Good video)
    (covers : ui.pixelFormat ≠ .invalid → video.pixelFormat ≠ .invalid →
      video.width ≤ ui.width ∧ video.height ≤ ui.height) :
    ∃ r, processFrames yuv lutTable s ui video = .ok r ∧
      r.2.map requestOf = (picture yuv lutTable ui video).map Picture.request := by
  by_cases noVideo : video.pixelFormat = .invalid
  · by_cases noUi : ui.pixelFormat = .invalid
    · obtain ⟨r, ran, nothing⟩ := processFrames_nothing yuv lutTable s noUi noVideo
      refine ⟨r, ran, ?_⟩
      rw [nothing, picture, if_neg (not_not_intro noVideo), if_neg (not_not_intro noUi)]
      rfl
    · have good := uiGood noUi
      obtain ⟨r, d, ran, delivered, width, height, pixels⟩ := @processFrames_ui yuv
        lutTable s ui video good.width good.height (good.converts yuv s.uiConverter) noVideo
      refine ⟨r, ran, ?_⟩
      rw [delivered, picture, if_neg (not_not_intro noVideo), if_pos noUi]
      refine congrArg some (request_of_loads good width height fun x y column row => ?_)
      obtain ⟨p, here, load⟩ := pixels x y column row
      rw [load, seen_of_argbAt here]
  · have good := videoGood noVideo
    by_cases noUi : ui.pixelFormat = .invalid
    · obtain ⟨r, d, ran, delivered, width, height, pixels⟩ := @processFrames_video yuv
        lutTable s ui video good.width good.height (good.converts yuv s.videoConverter) noUi
      refine ⟨r, ran, ?_⟩
      rw [delivered, picture, if_pos noVideo]
      refine congrArg some (request_of_loads good width height fun x y column row => ?_)
      obtain ⟨p, here, load⟩ := pixels x y column row
      dsimp only
      rw [load, seen_of_argbAt here, if_neg (not_not_intro noUi)]
    · obtain ⟨narrow, low⟩ := covers noUi noVideo
      obtain ⟨r, d, ran, delivered, width, height, pixels⟩ :=
        processFrames_over yuv lutTable s (uiGood noUi) good narrow low
      refine ⟨r, ran, ?_⟩
      rw [delivered, picture, if_pos noVideo]
      refine congrArg some (request_of_loads good width height fun x y column row => ?_)
      dsimp only
      rw [pixels x y column row, if_pos noUi]

end Pictures

/-! ### One event -/

section Steps

variable {codec : Codec} {yuv : Libyuv} {lutTable : Option Memory} {l : Loop}
  {it : FrameIteration} {c : Client}

theorem acquired_cases (l : Loop) (it : FrameIteration) (side : Side) :
    (acquired l it side).pixelFormat = .invalid ∨
      it.acquire side = 0 ∧ acquired l it side = it.frame side := by
  obtain ⟨during, _, acquires⟩ := acquireBoth_calls it.toIteration l.lastStart l.capture
  have here := acquires side
  unfold acquired Held.frame
  generalize (acquireBoth it.toIteration l.lastStart l.capture).format side = format at here ⊢
  generalize frameCalls side during = calls at here
  cases here with
  | idle => exact .inl rfl
  | failed error => exact .inl rfl
  | held success => exact .inr ⟨success, rfl⟩

theorem acquired_good (usable : Usable it) (side : Side)
    (valid : (acquired l it side).pixelFormat ≠ .invalid) :
    it.acquire side = 0 ∧ acquired l it side = it.frame side ∧ Good (acquired l it side) := by
  obtain none | ⟨success, same⟩ := acquired_cases l it side
  · exact absurd none valid
  · obtain ⟨supported, width, height, fits⟩ := usable.frame side success
    refine ⟨success, same, ?_⟩
    rw [same]
    exact ⟨supported, width, height, fits⟩

theorem loopIteration_picture (usable : Usable it) : ∃ l' sent,
    loopIteration yuv lutTable true l it = .ok l' ∧ l'.sent = l.sent ++ sent ∧
      sent.map requestOf = ((picture yuv lutTable (acquired l it .ui)
        (acquired l it .video)).map Picture.request).toList := by
  have good (side : Side) (valid : (acquired l it side).pixelFormat ≠ .invalid) :
      Good (acquired l it side) := (acquired_good usable side valid).2.2
  have covers (ui : (acquired l it .ui).pixelFormat ≠ .invalid)
      (video : (acquired l it .video).pixelFormat ≠ .invalid) :
      (acquired l it .video).width ≤ (acquired l it .ui).width ∧
        (acquired l it .video).height ≤ (acquired l it .ui).height := by
    obtain ⟨uiSuccess, uiSame, _⟩ := acquired_good usable .ui ui
    obtain ⟨videoSuccess, videoSame, _⟩ := acquired_good usable .video video
    rw [uiSame, videoSame]
    exact usable.covers uiSuccess videoSuccess
  obtain ⟨r, ran, shows⟩ := processFrames_picture yuv lutTable l.buffers (good .ui)
    (good .video) covers
  refine ⟨_, r.2.toList, bind_eq_ok.mpr ⟨r, processFramesOver_of_ok ran, rfl⟩, rfl, ?_⟩
  rw [← shows]
  cases r.2 <;> rfl

structure Serving (c : Client) : Prop extends Opened c where
  registered : c.registered = true

def message (codec : Codec) (q : Picture) : List UInt8 := (codec.encode q.request).bytes

theorem serviceFeedFrame_eq (serving : Serving c) (header body : WriteOutcome) (d : Delivery) :
    serviceFeedFrame header body c d = c.log (.frame c.sockfd (requestOf d) header body) := by
  obtain ⟨_, _, _, logged⟩ | ⟨closed, _⟩ := Registration.hyperionSetImage_cases (imageBytes d)
    d.width d.height header body c
  · exact logged
  · exact absurd ⟨serving.sockfd, serving.connected, serving.registered⟩ closed

theorem feed_frames (serving : Serving c) (header body : WriteOutcome) (sent : List Delivery) :
    sent.foldl (serviceFeedFrame header body) c = { c with
      calls := c.calls ++ sent.map (fun d => .frame c.sockfd (requestOf d) header body) } := by
  induction sent generalizing c with
  | nil => rw [List.foldl_nil, List.map_nil, List.append_nil]
  | cons d sent ih =>
    have later : Serving (c.log (.frame c.sockfd (requestOf d) header body)) :=
      ⟨⟨serving.sockfd, serving.connected⟩, serving.registered⟩
    rw [List.foldl_cons, serviceFeedFrame_eq serving, ih later]
    simp [Client.log]

theorem offered_frames (fd : Int) (header body : WriteOutcome) (sent : List Delivery) :
    offered codec (sent.map fun d => .frame fd (requestOf d) header body) =
      (sent.map requestOf).map fun r => (codec.encode r).bytes := by
  induction sent with
  | nil => rfl
  | cons d sent ih => exact congrArg (_ :: ·) ih

theorem accepted_frames (fd : Int) (sent : List Delivery) :
    accepted codec (sent.map fun d => .frame fd (requestOf d) .all .all) =
      frames ((sent.map requestOf).map fun r => (codec.encode r).bytes) := by
  induction sent with
  | nil => rfl
  | cons d sent ih => exact congrArg (_ ++ ·) ih

theorem frames_append (xs ys : List (List UInt8)) : frames (xs ++ ys) = frames xs ++ frames ys := by
  simp [frames]

theorem read_serving (serving : Serving c) (stack : Fin 4 → UInt8) (header body : ReadOutcome) :
    Serving (hyperionRead codec stack header body c).2 := by
  obtain ⟨_, same⟩ | ⟨messageSize, got, _, sockfd, _, connected, registered⟩ :=
    Registration.hyperionRead_cases codec stack header body serving.sockfd
  · rw [same]
    exact serving
  · refine ⟨⟨fun closed => serving.sockfd (sockfd.symm.trans closed),
      connected.trans serving.connected⟩, ?_⟩
    rw [registered, serving.registered, Bool.true_or]

/-- What the client has written belongs to the pictures shown; written whole, it is their
frames. -/
structure Arrived (codec : Codec) (whole : Prop) (base : List SocketCall)
    (p : Pipeline × List Picture) : Prop where
  serving : Serving p.1.client
  calls : ∃ calls, p.1.client.calls = base ++ calls ∧
    offered codec calls = p.2.map (message codec) ∧
    (whole → accepted codec calls = frames (p.2.map (message codec)))

theorem step_arrived {whole : Prop} {base : List SocketCall} {p : Pipeline × List Picture}
    {e : Event} (here : Arrived codec whole base p) (usable : e.Usable)
    (written : whole → e.Written) :
    ∃ q, watched (step codec yuv lutTable) (pictures yuv lutTable) p e = .ok q ∧
      Arrived codec whole base q := by
  obtain ⟨serving, calls, logged, offers, accepts⟩ := here
  cases e with
  | iteration it header body =>
    obtain ⟨l', sent, ran, sends, shows⟩ :=
      @loopIteration_picture yuv lutTable p.1.loop it usable
    have fed : l'.sent.drop p.1.loop.sent.length = sent := by
      rw [sends]
      exact List.drop_left
    have bytes : ((sent.map requestOf).map fun r => (codec.encode r).bytes) =
        (picture yuv lutTable (acquired p.1.loop it .ui)
          (acquired p.1.loop it .video)).toList.map (message codec) := by
      rw [shows]
      cases picture yuv lutTable (acquired p.1.loop it .ui) (acquired p.1.loop it .video) <;> rfl
    refine ⟨(⟨l', sent.foldl (serviceFeedFrame header body) p.1.client⟩,
      pictures yuv lutTable p.2 p.1 (.iteration it header body) p.1), watched_ok.mpr ⟨?_, rfl⟩, ?_⟩
    · exact bind_eq_ok.mpr ⟨l', ran, by rw [fed]⟩
    · rw [feed_frames serving]
      refine ⟨⟨⟨serving.sockfd, serving.connected⟩, serving.registered⟩,
        calls ++ sent.map (fun d => .frame p.1.client.sockfd (requestOf d) header body), ?_, ?_, ?_⟩
      · rw [logged, List.append_assoc]
      · rw [offered_append, offers, offered_frames, bytes]
        exact List.map_append.symm
      · intro all
        obtain ⟨rfl, rfl⟩ := written all
        rw [accepted_append, accepts all, accepted_frames, bytes, ← frames_append]
        exact congrArg frames List.map_append.symm
  | read stack header body =>
    obtain ⟨replies, more, none_offered, none_accepted, _⟩ :=
      @hyperionRead_opened codec p.1.client stack header body
    refine ⟨(⟨p.1.loop, (hyperionRead codec stack header body p.1.client).2⟩, p.2),
      watched_ok.mpr ⟨rfl, rfl⟩, read_serving serving stack header body, calls ++ replies, ?_, ?_,
      fun all => ?_⟩
    · exact more.trans (by rw [logged, List.append_assoc])
    · rw [offered_append, offers, none_offered, List.append_nil]
    · rw [accepted_append, accepts all, none_accepted, List.append_nil]

end Steps

/-- In any order of captured frames and reads, with frames that can be converted and blended,
the client is given to write exactly the pictures the frames show, one message each, and
where the writes take everything the socket carries their frames and nothing else. -/
theorem pixels_arrive (codec : Codec) (yuv : Libyuv) (lutTable : Option Memory) (c : Capture)
    (client : Client) (serving : Serving client) (es : List Event)
    (usable : ∀ e ∈ es, e.Usable) :
    ∃ p shown calls, run (watched (step codec yuv lutTable) (pictures yuv lutTable))
        (⟨.start c, client⟩, []) es = .ok (p, shown) ∧
      p.client.calls = client.calls ++ calls ∧
      offered codec calls = shown.map (message codec) ∧
      ((∀ e ∈ es, e.Written) → accepted codec calls = frames (shown.map (message codec))) := by
  have start : Arrived codec (∀ e ∈ es, e.Written) client.calls (⟨.start c, client⟩, []) :=
    ⟨serving, [], (List.append_nil _).symm, rfl, fun _ => rfl⟩
  have steps : ∀ p e, Arrived codec (∀ e ∈ es, e.Written) client.calls p →
      (e.Usable ∧ ((∀ e ∈ es, e.Written) → e.Written)) → ∃ q,
      watched (step codec yuv lutTable) (pictures yuv lutTable) p e = .ok q ∧ True ∧
        Arrived codec (∀ e ∈ es, e.Written) client.calls q := by
    intro p e here fine
    obtain ⟨q, taken, arrived⟩ := step_arrived here fine.1 fine.2
    exact ⟨q, taken, trivial, arrived⟩
  obtain ⟨⟨p, shown⟩, ran, -, _, calls, logged, offers, accepts⟩ :=
    run_succeeds (R := fun _ _ _ => True) steps start
      fun e member => ⟨usable e member, fun all => all e member⟩
  exact ⟨p, shown, calls, ran, logged, offers, accepts⟩

def bothIteration : FrameIteration where
  now := 2000000
  start := fun _ => 0
  acquire := fun _ => 0
  frame
    | .ui => greyFrame .abgr 4 320 180
    | .video => greyFrame .yuv420SemiPlanar 1 320 180
  beyond := ⟨fun _ _ _ => 0, fun _ _ _ => 0, fun _ _ _ => 0⟩

theorem pixels_arrive_both : ∃ p shown calls,
    run (watched (step plain greyYuv none) (pictures greyYuv none))
      (⟨.start bothSides, { connectedClient with registered := true }⟩, [])
      [.iteration bothIteration .all .all] = .ok (p, shown) ∧
    p.client.calls = connectedClient.calls ++ calls ∧
    offered plain calls = shown.map (message plain) ∧
    ((∀ e ∈ [Event.iteration bothIteration .all .all], e.Written) →
      accepted plain calls = frames (shown.map (message plain))) := by
  refine pixels_arrive plain greyYuv none bothSides { connectedClient with registered := true }
    ⟨⟨by decide, rfl⟩, rfl⟩ [.iteration bothIteration .all .all] fun e member => ?_
  rw [List.mem_singleton.mp member]
  refine ⟨fun side _ => ?_, fun _ _ => by decide⟩
  cases side with
  | ui => exact ⟨by decide, by decide, by decide, by decide⟩
  | video => exact ⟨by decide, by decide, by decide, by decide⟩

end HyperionWebos.PixelPath
