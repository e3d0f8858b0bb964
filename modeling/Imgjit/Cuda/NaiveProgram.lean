import Imgjit.Cuda.NaiveStage
import Imgjit.Cuda.Program

/-!
# The naive program computes the chain

Stage by stage the naive program leaves the oracle's picture in the buffer it has just written, so
the whole of it leaves the picture of the whole chain, whichever ops were fused into which kernel.

The induction is on the plan, and its invariant is about one buffer: before a stage, the source
buffer holds the picture of the ops of all stages before it.  The other buffer may hold anything,
since a stage stores every sample of it.  Behind the last stage the ops are the whole chain
(`planStages_ops`), and the picture is the oracle's.

* `FrameOf` — a job whose fields are those of an image, as the launcher reads them.
* `StoresOnce` — a launch that stores every sample of an image once.
* `launchStages_naive` — the stages of a plan, by induction on the plan.
* `naiveProgram_refines` — the program that `emitCudaSource` plans for a chain, read back as an
  image, is `applyChain`; it holds for every schedule of every launch.

`EveryProgram.lean` has the same for all modes, in 32-bit integers.
-/

namespace Imgjit

namespace Cuda

/-- A frame whose dimensions are the image's. -/
abbrev FrameOf (job : FrameJob) (image : Image) : Prop :=
  image.HasShape job.width job.height job.channels

/-- Every sample of the image is stored by exactly one thread. -/
def StoresOnce (image : Image) (run : LaunchRun) : Prop :=
  (run.stores.map Prod.fst).Perm (List.range image.byteCount)

lemma stageArguments_nil (cmath : CMath) (chain : OpChain) {stage : GeneratedStage}
    (h : stage.paramOps = []) : stageArguments cmath chain stage = some [] := by
  rw [stageArguments, h]
  rfl

/-- The launch of a stage covers the image. -/
lemma stageLaunch_over {cmath : CMath} {job : FrameJob} {image : Image} (stage : GeneratedStage)
    {source destination : List UInt8} (hframe : FrameOf job image) (hpos : 0 < stage.blockDim)
    (hsmall : stage.blockDim ≤ 32) (hsource : Holds source image)
    (hdestination : image.byteCount ≤ destination.length) :
    LaunchesOver (stageLaunch cmath job stage source destination []) cmath image
      stage.blockDim := by
  have hblock : (UInt32.ofNat stage.blockDim).toNat = stage.blockDim :=
    UInt32.toNat_ofNat_of_lt' (by simp only [UInt32.size]; omega)
  have hw := image.width_pos
  have hh := image.height_pos
  have hreaches : ∀ extent : Int32, 0 < extent.toInt → extent.toInt.toNat
      ≤ (gridDim extent (UInt32.ofNat stage.blockDim)).toNat * stage.blockDim := by
    intro extent hextent
    have := gridDim_reaches (UInt32.ofNat stage.blockDim) hextent (by omega) (by omega)
    rwa [hblock] at this
  refine ⟨rfl, hblock, hpos, ?_, ?_, hframe.width, hframe.height, hsource, hdestination⟩
  · have := hreaches job.width (by rw [hframe.width]; omega)
    rwa [hframe.width, Int.toNat_natCast] at this
  · have := hreaches job.height (by rw [hframe.height]; omega)
    rwa [hframe.height, Int.toNat_natCast] at this

/-- **The stages of a plan**, from whichever buffer holds the picture so far. -/
theorem launchStages_naive (cmath : CMath) (job : FrameJob) (schedules : ℕ → Schedule) :
    ∀ (stages : List Stage) (s : ℕ) (image : Image) (source destination : List UInt8),
      (∀ stage ∈ stages, stage.WellFormed) → FrameOf job image → Holds source image →
      image.byteCount ≤ destination.length →
      ∃ emitted, emitStages cmath image.channels (Cpu.colorChannels image.channels) 0 false stages s
          = .ok emitted
        ∧ ∃ run, launchStages StageCode.run cmath job schedules emitted s source destination = some run
          ∧ Holds run.source (Cpu.applyOps cmath image (stages.flatMap Stage.ops))
          ∧ run.launches.length = stages.length ∧ ∀ launch ∈ run.launches, StoresOnce image launch
  | [], s, image, source, destination, _, _, hsource, _ =>
      ⟨[], rfl, _, rfl, hsource, rfl, List.forall_mem_nil _⟩
  | stage :: rest, s, image, source, destination, hwell, hframe, hsource, hdestination => by
      obtain ⟨code, hcode, -, hcomputes⟩ :=
        emitStage_naive cmath image ⟨s⟩ (hwell stage List.mem_cons_self)
      obtain ⟨run, hrun, hdst, hkeys⟩ := hcomputes _ (schedules s)
        (stageLaunch_over { kernelName := ⟨s⟩, isStencil := stage.stencil.isSome } hframe 
          (show 0 < kNaiveBlockDim by decide) (show kNaiveBlockDim ≤ 32 by decide) hsource
          hdestination) rfl
      -- The next stage reads what this one wrote, and writes what this one read.
      set next := Cpu.applyOps cmath image stage.ops with hnext
      have hholds : Holds run.dst next := by
        rw [hdst]
        exact holds_append _ _
      have hbytes : next.byteCount = image.byteCount := by
        simp [Image.byteCount_eq, Image.stride, hnext]
      have hchannels : next.channels = image.channels := by simp [hnext]
      obtain ⟨emitted, hemitted, later, hlater, hresult, hcount, hstores⟩ :=
        launchStages_naive cmath job schedules rest (s + 1) next run.dst source
          (fun stage' hmem => hwell stage' (List.mem_cons_of_mem _ hmem))
          ⟨by simpa [hnext] using hframe.width, by simpa [hnext] using hframe.height,
            by simpa [hnext] using hframe.channels⟩ hholds (hbytes ▸ hsource.length_le)
      rw [hchannels] at hemitted
      refine ⟨(code, { kernelName := ⟨s⟩, isStencil := stage.stencil.isSome }) :: emitted,
        by rw [emitStages, hcode, hemitted]; rfl, { later with launches := run :: later.launches },
        ?_, ?_, by rw [List.length_cons, hcount, List.length_cons], fun launch hmem => ?_⟩
      · rw [launchStages, stageArguments_nil cmath job.chain rfl]
        simp only [Option.bind_eq_bind, Option.bind_some, hrun, hlater]
      · rw [List.flatMap_cons, Cpu.applyOps_append]
        exact hresult
      · rcases List.mem_cons.mp hmem with rfl | hmem
        · exact hkeys
        · have := hstores launch hmem
          rwa [StoresOnce, hbytes] at this

/-- The key of a naive backend with baked constants. -/
def naiveKey (chain : OpChain) (channels : Int32) : KernelKey :=
  { chain := chain, channels := channels, tile := .kNaive, tileSize := 0, constants := .kBaked }

/-- A naive baked key of a supported channel count is never refused outright. -/
lemma emitCudaSource_naive {cmath : CMath} (chain : OpChain) {channels : Int32}
    {emitted : List (StageCode × GeneratedStage)} (hchannels : isSupportedChannelCount channels = true)
    (hemitted : emitStages cmath channels.toInt.toNat (Cpu.colorChannels channels.toInt.toNat) 0
      false (planStages chain) 0 = .ok emitted) :
    ∃ program, emitCudaSource cmath (naiveKey chain channels) = .ok program
      ∧ program.source.stages = emitted.map Prod.fst ∧ program.stages = emitted.map Prod.snd := by
  have htile : isSupportedTile (naiveKey chain channels).tile (naiveKey chain channels).tileSize
      = true := rfl
  have hconstants : isSupportedConstants (naiveKey chain channels).constants
      (naiveKey chain channels).tile = true := rfl
  have hcount : isSupportedChannelCount (naiveKey chain channels).channels = true := hchannels
  simp only [emitCudaSource, hcount, htile, hconstants, Bool.not_true, Bool.false_eq_true, if_false]
  have hstages : emitStages cmath (naiveKey chain channels).channels.toInt.toNat
      (Cpu.colorChannels (naiveKey chain channels).channels.toInt.toNat)
      (if (naiveKey chain channels).tile = .kTiled then
        (naiveKey chain channels).tileSize.toInt.toNat else 0)
      ((naiveKey chain channels).constants == .kParameterized)
      (planStages (naiveKey chain channels).chain) 0 = .ok emitted := hemitted
  rw [hstages]
  exact ⟨_, rfl, rfl, rfl⟩

/-- **Fusion never changes the result.**  For every frame of a non-empty image, the naive baked
program of its chain exists, and running it on a pair of buffers, the first of which holds the
frame, leaves a buffer that reads back as the oracle's image; alpha is the frame's own, and every
launch stores each sample from exactly one thread, in whatever order the stores land. -/
theorem naiveProgram_refines (cmath : CMath) (job : FrameJob) (image : Image)
    (schedules : ℕ → Schedule) (front back : List UInt8) (hframe : FrameOf job image)
    (hfront : Holds front image) (hback : image.byteCount ≤ back.length) :
    ∃ program compiled run, emitCudaSource cmath (naiveKey job.chain job.channels) = .ok program
      ∧ compileProgram program = some compiled
      ∧ compiled.launch cmath job schedules front back = some run
      ∧ Image.fromBytes job.width job.height job.channels (run.source.take image.byteCount)
          (sizeT job.width * sizeT job.channels) = .ok (Cpu.applyChain cmath image job.chain)
      ∧ (∀ x y c, x < image.width → y < image.height → c < image.channels →
          ¬c < Cpu.colorChannels image.channels →
          (Cpu.applyChain cmath image job.chain).sampleAt x y c = image.sampleAt x y c)
      ∧ run.launches.length = (planStages job.chain).length
      ∧ ∀ launch ∈ run.launches, StoresOnce image launch := by
  have hchannels : job.channels.toInt.toNat = image.channels := by
    rw [hframe.channels, Int.toNat_natCast]
  obtain ⟨emitted, hemitted, run, hrun, hholds, hcount, hstores⟩ := launchStages_naive cmath job
    schedules (planStages job.chain) 0 image front back (planStages_wellFormed job.chain) hframe
    hfront hback
  obtain ⟨program, hprogram, hcodes, hstages⟩ := emitCudaSource_naive job.chain
    hframe.shaped.2.2 (by rw [hchannels]; exact hemitted)
  have hpicture : Cpu.applyOps cmath image ((planStages job.chain).flatMap Stage.ops)
      = Cpu.applyChain cmath image job.chain := by rw [planStages_ops, Cpu.applyChain]
  rw [hpicture] at hholds
  have hbytes : (Cpu.applyChain cmath image job.chain).byteCount = image.byteCount := by
    simp [Image.byteCount_eq, Image.stride, Cpu.applyChain]
  refine ⟨program, _, run, hprogram, compileProgram_ok hprogram, ?_, ?_,
    fun x y c hx hy hc halpha => sampleAt_applyOps_alpha _ hx hy hc halpha, hcount, hstores⟩
  · rw [CompiledChain.launch, ← List.zip_of_prod hcodes.symm hstages.symm]
    exact hrun
  · refine Image.fromBytes_pixels ⟨?_, ?_, ?_⟩ ?_
    · simpa [Cpu.applyChain] using hframe.width
    · simpa [Cpu.applyChain] using hframe.height
    · simpa [Cpu.applyChain] using hframe.channels
    · rw [← hbytes, List.take_take, min_self]
      exact hholds

/-- Two gray pixels. -/
def grayPair : Image where
  width := 2
  height := 1
  channels := 1
  pixels := [10, 200]
  width_pos := by decide
  width_lt := by decide
  height_pos := by decide
  height_lt := by decide
  supported := .inl rfl
  packed := rfl

/-- Brightened, edge-detected and inverted: one stage of three ops. -/
def grayPairJob : FrameJob where
  input := some 0
  width := 2
  height := 1
  channels := 1
  stride := 2
  chain := ⟨[⟨.kBrightness, 1 / 10⟩, ⟨.kSobel, 0⟩, ⟨.kInvert, 0⟩]⟩

lemma grayPairJob_frame : FrameOf grayPairJob grayPair := ⟨by decide, by decide, by decide⟩

/-- A computable stand-in for `<cmath>`. -/
def plainMath : CMath where
  exp := fun _ => 1
  sqrt := fun x => x

/-- An inverted pair of pixels, and what the two buffers hold of it behind the program. -/
theorem naiveProgram_refines_grayPair :
    ∃ program compiled run,
      emitCudaSource plainMath (naiveKey grayPairJob.chain grayPairJob.channels) = .ok program
      ∧ compileProgram program = some compiled
      ∧ compiled.launch plainMath grayPairJob (fun _ => Schedule.inOrder) [10, 200] [0, 0]
        = some run
      ∧ Image.fromBytes grayPairJob.width grayPairJob.height grayPairJob.channels
          (run.source.take 2) (sizeT grayPairJob.width * sizeT grayPairJob.channels)
          = .ok (Cpu.applyChain plainMath grayPair grayPairJob.chain) := by
  obtain ⟨program, compiled, run, hemit, hcompile, hrun, hresult, -⟩ :=
    naiveProgram_refines plainMath grayPairJob grayPair (fun _ => Schedule.inOrder) [10, 200] [0, 0]
      grayPairJob_frame rfl le_rfl
  exact ⟨program, compiled, run, hemit, hcompile, hrun, hresult⟩

end Cuda

end Imgjit
