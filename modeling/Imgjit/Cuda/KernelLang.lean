import Imgjit.Cpu.Ops
import Imgjit.Library.Grid
import Imgjit.Library.WriteLog

/-!
# The language of the generated kernels

The part of CUDA C++ that code generation emits: its syntax, and what a launch of it does.  The
emitters of `Codegen.lean` return programs of this language, so that "the generated kernel computes
the picture" is a statement about what the kernel does, and not about its text.

**The prelude.**  `imgjitClampCoord` and its companions are the device helpers of
`kernel_prelude.h`.

**Syntax.**  `IntExpr`, `FloatExpr`, `Stmt` and `Kernel`, under the names the generated text uses.
A kernel is a list of phases with a `__syncthreads()` between each two.  There is no more in the
language than the emitters use.

**One thread.**  `Stmt.exec` is one thread.  `none` is everything that has no defined outcome: an
index outside a buffer, a table or the tile, an element nobody has written, a parameter nobody has
declared.  A thread sees the tile as it was at the last barrier, and reads `src` only, so what
threads do between two barriers does not depend on each other.

**One launch.**  `StageCode.run` is one launch: all threads of a block reach each barrier or the
launch has no outcome, and the writes of a phase may land in any order (`Schedule`).  A theorem for
every schedule is a theorem for every interleaving of the threads.
-/

namespace Imgjit

namespace Cuda

/-! ## The prelude -/

/-- `imgjit_clamp_coord`. -/
def imgjitClampCoord (v limit : ℤ) : ℤ :=
  if v < 0 then 0 else if v > limit - 1 then limit - 1 else v

/-- `imgjit_clamp01`. -/
def imgjitClamp01 (v : ℚ) : ℚ := if v < 0 then 0 else if v > 1 then 1 else v

/-- `imgjit_load_sample`. -/
def imgjitLoadSample (v : UInt8) : ℚ := v.toNat / 255

/-- `roundf` rounds halves away from zero. -/
def imgjitStoreSample (v : ℚ) : UInt8 :=
  UInt8.ofInt (Rounding.roundAway (imgjitClamp01 v * 255))

/-- The fusion boundary. -/
def imgjitQuantize (v : ℚ) : ℚ := imgjitLoadSample (imgjitStoreSample v)

/-- `imgjit_luma`. -/
def imgjitLuma (r g b : ℚ) : ℚ := 0.299 * r + 0.587 * g + 0.114 * b

/-! ## Syntax -/

/-- The two axes of a grid, and of a block. -/
inductive Axis where
  | x
  | y
  deriving DecidableEq, Repr

/-- The `int` variables, by name. -/
inductive IntVar where
  | x
  | y
  | i
  | width
  | height
  | radius
  | sx
  | sy
  | lx
  | ly
  | tileX0
  | tileY0
  | k
  | ty
  | tx
  | dy
  | dx
  deriving DecidableEq, Repr

/-- Expressions of type `int`. -/
inductive IntExpr where
  | lit (value : ℤ)
  | var (name : IntVar)
  | blockIdx (axis : Axis)
  | threadIdx (axis : Axis)
  | blockDim (axis : Axis)
  /-- `(int)(e)` of an unsigned expression. -/
  | ofUnsigned (e : IntExpr)
  | neg (e : IntExpr)
  | add (a b : IntExpr)
  | sub (a b : IntExpr)
  | mul (a b : IntExpr)
  | div (a b : IntExpr)
  | clampCoord (v limit : IntExpr)
  deriving DecidableEq, Repr

/-- The `float` variables, by name.  `g` and `w` are scalars, the others arrays. -/
inductive FloatVar where
  | v
  | t
  | acc
  | gx
  | gy
  | g
  | w
  deriving DecidableEq, Repr

/-- The constant arrays of a stage, `<stage>_w`, `<stage>_gx` and `<stage>_gy`, and the argument
`taps.w`. -/
inductive Table where
  | w
  | gx
  | gy
  | taps
  deriving DecidableEq, Repr

/-- Expressions of type `float`. -/
inductive FloatExpr where
  | lit (value : ℚ)
  /-- The argument `p<index>`. -/
  | param (index : ℕ)
  | scalar (name : FloatVar)
  | cell (array : FloatVar) (c : ℕ)
  /-- `tile[plane][row][column]`. -/
  | tile (plane : ℕ) (row column : IntExpr)
  | table (name : Table) (index : IntExpr)
  /-- `imgjit_load_sample(src[index])`. -/
  | loadSample (index : IntExpr)
  | quantize (e : FloatExpr)
  | luma (r g b : FloatExpr)
  | sqrtf (e : FloatExpr)
  | add (a b : FloatExpr)
  | sub (a b : FloatExpr)
  | mul (a b : FloatExpr)
  /-- `a >= b ? yes : no`. -/
  | ifGe (a b yes no : FloatExpr)
  deriving DecidableEq, Repr

/-- Expressions that are stored into `dst`. -/
inductive ByteExpr where
  | storeSample (e : FloatExpr)
  | src (index : IntExpr)
  deriving DecidableEq, Repr

/-- Statements. -/
inductive Stmt where
  | nop
  | seq (first second : Stmt)
  | comment (text : String)
  /-- `const int name = value;` -/
  | int (name : IntVar) (value : IntExpr)
  /-- `float name[size];`, or with an initializer that repeats one value. -/
  | array (name : FloatVar) (size : ℕ) (init : Option ℚ)
  /-- `const float name = value;` -/
  | float (name : FloatVar) (value : FloatExpr)
  /-- `name[c] = value;` -/
  | set (name : FloatVar) (c : ℕ) (value : FloatExpr)
  /-- `name[c] += value;` -/
  | accumulate (name : FloatVar) (c : ℕ) (value : FloatExpr)
  | block (body : Stmt)
  /-- `for (int name = first; name <= last; ++name)`.  The body never assigns what the bounds read. -/
  | forUpTo (name : IntVar) (first last : IntExpr) (body : Stmt)
  /-- `for (int name = first; name < bound; name += step)`. -/
  | forBelow (name : IntVar) (first : IntExpr) (bound step : ℕ) (body : Stmt)
  /-- The tap helper, on `(src, x, y, width, height, target, p...)`. -/
  | callTap (x y : IntExpr) (target : FloatVar) (args : List ℕ)
  | setTile (plane : ℕ) (row column : IntExpr) (value : FloatExpr)
  | setDst (index : IntExpr) (value : ByteExpr)
  deriving DecidableEq, Repr

namespace Stmt

/-- Statements one after the other. -/
def all : List Stmt → Stmt
  | [] => nop
  | first :: rest => seq first (all rest)

/-- What `for (int c = 0; c < colors; ++c) out << ...` emits. -/
def forColors (colors : ℕ) (emit : ℕ → Stmt) : Stmt := all ((List.range colors).map emit)

end Stmt

/-- The conditions under which a thread returns. -/
inductive IntCond where
  | ge (a b : IntExpr)
  | or (c d : IntCond)
  deriving DecidableEq, Repr

/-- A statement of a kernel's own body. -/
inductive Item where
  | stmt (s : Stmt)
  /-- `if (condition) { return; }` -/
  | returnIf (condition : IntCond)
  deriving DecidableEq, Repr

/-- `__shared__ float tile[planes][edge][edge];` -/
structure TileShape where
  planes : ℕ
  edge : ℕ
  deriving DecidableEq, Repr

/-- Every kernel takes `(src, dst, width, height)`, then `radius` and `taps` when the radius is an
argument, then one float for each index of `params`. -/
structure Kernel where
  runtimeRadius : Bool
  params : List ℕ
  launchBounds : Option ℕ
  tile : Option TileShape
  phases : List (List Item)
  deriving DecidableEq, Repr

/-- The tap helper of a stencil: which arguments it takes on, and its body. -/
structure TapFunction where
  params : List ℕ
  body : Stmt
  deriving DecidableEq, Repr

/-- The constant arrays emitted in front of a stencil stage. -/
inductive Constants where
  | sobel (gx gy : List ℚ)
  | gaussian (sigma : ℚ) (radius : ℤ) (weights : List ℚ)
  deriving DecidableEq, Repr

/-- The name `imgjit_stage<index>`. -/
structure KernelName where
  index : ℕ
  deriving DecidableEq, Repr

/-- The emitted code of one stage. -/
structure StageCode where
  name : KernelName
  constants : Option Constants
  tap : Option TapFunction
  kernel : Kernel
  deriving DecidableEq, Repr

/-! ## One thread -/

/-- A plane, a row and a column. -/
abbrev TileCell := ℕ × ℤ × ℤ

/-- A write to the tile of the block. -/
abbrev TileWrite := TileCell × ℚ

/-- A write to `dst`. -/
abbrev DstWrite := ℕ × UInt8

/-- What a thread has to itself, and what it has written. -/
structure ThreadState where
  ints : IntVar → ℤ := fun _ => 0
  /-- Arrays, and scalars as arrays of one.  `none` is an element nobody has written. -/
  floats : FloatVar → List (Option ℚ) := fun _ => []
  params : ℕ → Option ℚ := fun _ => none
  tileLog : List TileWrite := []
  dstLog : List DstWrite := []
  returned : Bool := false

/-- What a thread finds around it. -/
structure Env where
  cmath : CMath
  block : ℕ × ℕ
  thread : ℕ × ℕ
  blockDim : ℕ
  src : List UInt8
  dstSize : ℕ
  table : Table → List ℚ
  tileShape : Option TileShape
  tile : TileCell → Option ℚ
  /-- The tap helper, on the coordinates, the array behind the pointer and the scalars. -/
  tap : ℤ → ℤ → List (Option ℚ) → List ℚ → Option (List (Option ℚ))

/-- The element at a machine index, if there is one. -/
def atIndex {α : Type} (l : List α) (index : ℤ) : Option α :=
  if 0 ≤ index then l[index.toNat]? else none

/-- The component of a pair along an axis. -/
def Axis.of {α : Type} (pair : α × α) : Axis → α
  | .x => pair.1
  | .y => pair.2

/-- The value of an expression of type `int`, in exact integers. -/
def IntExpr.eval (env : Env) (ints : IntVar → ℤ) : IntExpr → ℤ
  | lit value => value
  | var name => ints name
  | blockIdx axis => (axis.of env.block : ℕ)
  | threadIdx axis => (axis.of env.thread : ℕ)
  | blockDim _ => env.blockDim
  | ofUnsigned e => e.eval env ints
  | neg e => -e.eval env ints
  | add a b => a.eval env ints + b.eval env ints
  | sub a b => a.eval env ints - b.eval env ints
  | mul a b => a.eval env ints * b.eval env ints
  | div a b => (a.eval env ints).tdiv (b.eval env ints)
  | clampCoord v limit => imgjitClampCoord (v.eval env ints) (limit.eval env ints)

namespace ThreadState

/-- The element of an array, if it has been written. -/
def cell (s : ThreadState) (array : FloatVar) (c : ℕ) : Option ℚ := (s.floats array)[c]?.join

/-- The thread with another value in an `int` variable. -/
def setInt (s : ThreadState) (name : IntVar) (value : ℤ) : ThreadState :=
  { s with ints := Function.update s.ints name value }

/-- The thread with another array. -/
def setArray (s : ThreadState) (name : FloatVar) (values : List (Option ℚ)) : ThreadState :=
  { s with floats := Function.update s.floats name values }

/-- A store into an array, inside its bounds. -/
def setCell (s : ThreadState) (name : FloatVar) (c : ℕ) (value : ℚ) : Option ThreadState :=
  if c < (s.floats name).length then some (s.setArray name ((s.floats name).set c (some value)))
  else none

end ThreadState

/-- The value of an expression of type `float`, if it has one. -/
def FloatExpr.eval (env : Env) (s : ThreadState) : FloatExpr → Option ℚ
  | lit value => some value
  | param index => s.params index
  | scalar name => s.cell name 0
  | cell array c => s.cell array c
  | tile plane row column => env.tile (plane, row.eval env s.ints, column.eval env s.ints)
  | table name index => atIndex (env.table name) (index.eval env s.ints)
  | loadSample index => (atIndex env.src (index.eval env s.ints)).map imgjitLoadSample
  | quantize e => (e.eval env s).map imgjitQuantize
  | luma r g b => do some (imgjitLuma (← r.eval env s) (← g.eval env s) (← b.eval env s))
  | sqrtf e => (e.eval env s).map env.cmath.sqrt
  | add a b => do some ((← a.eval env s) + (← b.eval env s))
  | sub a b => do some ((← a.eval env s) - (← b.eval env s))
  | mul a b => do some ((← a.eval env s) * (← b.eval env s))
  | ifGe a b yes no => do
      if (← a.eval env s) ≥ (← b.eval env s) then yes.eval env s else no.eval env s

/-- The byte of an expression that is stored, if it has one. -/
def ByteExpr.eval (env : Env) (s : ThreadState) : ByteExpr → Option UInt8
  | storeSample e => (e.eval env s).map imgjitStoreSample
  | src index => atIndex env.src (index.eval env s.ints)

/-- A store into the tile, inside its bounds. -/
def Env.storeTile (env : Env) (s : ThreadState) (cell : TileCell) (value : ℚ) :
    Option ThreadState :=
  match env.tileShape with
  | none => none
  | some shape =>
      if cell.1 < shape.planes ∧ (0 ≤ cell.2.1 ∧ cell.2.1 < shape.edge)
          ∧ (0 ≤ cell.2.2 ∧ cell.2.2 < shape.edge) then
        some { s with tileLog := s.tileLog ++ [(cell, value)] }
      else none

/-- A store into `dst`, inside its bounds. -/
def Env.storeDst (env : Env) (s : ThreadState) (index : ℤ) (value : UInt8) : Option ThreadState :=
  if 0 ≤ index ∧ index < env.dstSize then
    some { s with dstLog := s.dstLog ++ [(index.toNat, value)] }
  else none

/-- A statement, executed by one thread. -/
def Stmt.exec (env : Env) : Stmt → ThreadState → Option ThreadState
  | nop, s => some s
  | seq first second, s => (first.exec env s).bind (second.exec env)
  | comment _, s => some s
  | int name value, s => some (s.setInt name (value.eval env s.ints))
  | array name size init, s => some (s.setArray name (List.replicate size init))
  | float name value, s => do some (s.setArray name [some (← value.eval env s)])
  | set name c value, s => do s.setCell name c (← value.eval env s)
  | accumulate name c value, s => do
      s.setCell name c ((← s.cell name c) + (← value.eval env s))
  | block body, s => body.exec env s
  | forUpTo name first last body, s =>
      (Cpu.loopValues (first.eval env s.ints) (last.eval env s.ints)).foldlM
        (fun s value => body.exec env (s.setInt name value)) s
  | forBelow name first bound step body, s =>
      (Grid.strideValues (first.eval env s.ints).toNat bound step).foldlM
        (fun s (value : ℕ) => body.exec env (s.setInt name value)) s
  | callTap x y target args, s => do
      let scalars ← args.mapM s.params
      let values ← env.tap (x.eval env s.ints) (y.eval env s.ints) (s.floats target) scalars
      some (s.setArray target values)
  | setTile plane row column value, s => do
      env.storeTile s (plane, row.eval env s.ints, column.eval env s.ints) (← value.eval env s)
  | setDst index value, s => do env.storeDst s (index.eval env s.ints) (← value.eval env s)

/-- The value of a condition. -/
def IntCond.eval (env : Env) (ints : IntVar → ℤ) : IntCond → Bool
  | ge a b => decide (a.eval env ints ≥ b.eval env ints)
  | or c d => c.eval env ints || d.eval env ints

/-- The items of one phase.  A thread that has returned does nothing more. -/
def runItems (env : Env) : List Item → ThreadState → Option ThreadState
  | [], s => some s
  | .stmt body :: rest, s => (body.exec env s).bind (runItems env rest)
  | .returnIf condition :: rest, s =>
      if condition.eval env s.ints then some { s with returned := true } else runItems env rest s

/-! ## One launch -/

/-- An argument as the launcher passes it. -/
inductive KernelArg where
  | int (value : ℤ)
  | taps (weights : List ℚ)
  | float (value : ℚ)
  deriving DecidableEq, Repr

/-- The arguments behind `(src, dst, width, height)`, bound to their names. -/
structure BoundArgs where
  radius : ℤ := 0
  taps : List ℚ := []
  params : ℕ → Option ℚ := fun _ => none

/-- The values of a kernel's float parameters, if there are as many as are declared. -/
def bindParams : List ℕ → List KernelArg → Option (ℕ → Option ℚ)
  | [], [] => some fun _ => none
  | index :: indices, .float value :: args => do
      some (Function.update (← bindParams indices args) index (some value))
  | _, _ => none

/-- The arguments by position: the radius and the taps first, if the kernel takes them. -/
def Kernel.bindArgs (kernel : Kernel) (args : List KernelArg) : Option BoundArgs :=
  if kernel.runtimeRadius then
    match args with
    | .int radius :: .taps taps :: rest => do
        some { radius := radius, taps := taps, params := ← bindParams kernel.params rest }
    | _ => none
  else do some { params := ← bindParams kernel.params args }

/-- A launch: grid and block, the buffers, the dimensions and the remaining arguments. -/
structure Launch where
  cmath : CMath
  grid : ℕ × ℕ
  blockDim : ℕ
  src : List UInt8
  dst : List UInt8
  width : ℤ
  height : ℤ
  args : List KernelArg

/-- The tap helper as its callers see it: a fresh frame over the caller's array. -/
def TapFunction.call (tap : TapFunction) (env : Env) (width height : ℤ) (x y : ℤ)
    (target : List (Option ℚ)) (scalars : List ℚ) : Option (List (Option ℚ)) := do
  let params ← bindParams tap.params (scalars.map .float)
  let s : ThreadState := { params := params }
  let s := (((s.setInt .x x).setInt .y y).setInt .width width).setInt .height height
  let s ← tap.body.exec env (s.setArray .v target)
  some (s.floats .v)

/-- A table of the constants that are baked into a stage. -/
def Constants.table : Constants → Table → List ℚ
  | sobel gx _, .gx => gx
  | sobel _ gy, .gy => gy
  | gaussian _ _ weights, .w => weights
  | _, _ => []

namespace StageCode

/-- A table as a thread finds it: the argument's taps, or a baked one. -/
def table (stage : StageCode) (taps : List ℚ) : Table → List ℚ
  | .taps => taps
  | name =>
      match stage.constants with
      | some constants => constants.table name
      | none => []

/-- The surroundings of a thread.  The tap helper has no tap helper of its own. -/
def env (stage : StageCode) (launch : Launch) (args : BoundArgs) (block thread : ℕ × ℕ)
    (tile : TileCell → Option ℚ) : Env :=
  let inner : Env := {
    cmath := launch.cmath
    block := block
    thread := thread
    blockDim := launch.blockDim
    src := launch.src
    dstSize := launch.dst.length
    table := stage.table args.taps
    tileShape := stage.kernel.tile
    tile := tile
    tap := fun _ _ _ _ => none }
  match stage.tap with
  | none => inner
  | some tap => { inner with tap := tap.call inner launch.width launch.height }

/-- A thread at the start of the kernel. -/
def start (launch : Launch) (args : BoundArgs) : ThreadState :=
  (((({ params := args.params } : ThreadState).setInt .width launch.width).setInt .height
    launch.height).setInt .radius args.radius)

end StageCode

/-- What happened in one block: the tile writes at each barrier, and the stores. -/
structure BlockRun where
  barriers : List (List TileWrite)
  stores : List DstWrite

/-- The phases of a block, from one barrier to the next.  `order` is the order in which the writes
of a phase land. -/
def runPhases (env : ℕ × ℕ → (TileCell → Option ℚ) → Env)
    (order : List TileWrite → List TileWrite) :
    List (List Item) → (TileCell → Option ℚ) → List ((ℕ × ℕ) × ThreadState) → Option BlockRun
  | [], _, threads => some { barriers := [], stores := threads.flatMap (·.2.dstLog) }
  | phase :: rest, tile, threads => do
      let threads ← threads.mapM fun thread => do
        some (thread.1, ← runItems (env thread.1 tile) phase thread.2)
      if rest = [] then some { barriers := [], stores := threads.flatMap (·.2.dstLog) }
      else if threads.any (·.2.returned) then none
      else
        let log := threads.flatMap (·.2.tileLog)
        let landed := WriteLog.applyLog tile ((order log).map fun write => (write.1, some write.2))
        let later ← runPhases env order rest landed
          (threads.map fun thread => (thread.1, { thread.2 with tileLog := [] }))
        some { later with barriers := log :: later.barriers }

/-- Orders in which the writes of a launch may land. -/
structure Schedule where
  tile : ℕ × ℕ → List TileWrite → List TileWrite
  tile_perm : ∀ block log, (tile block log).Perm log
  dst : List DstWrite → List DstWrite
  dst_perm : ∀ log, (dst log).Perm log

/-- Writes land as they are made. -/
def Schedule.inOrder : Schedule where
  tile := fun _ log => log
  tile_perm := fun _ log => List.Perm.refl log
  dst := fun log => log
  dst_perm := fun log => List.Perm.refl log

/-- The outcome of a launch: what its blocks did, and the destination. -/
structure LaunchRun where
  blocks : List BlockRun
  dst : List UInt8

/-- All stores of a launch. -/
def LaunchRun.stores (run : LaunchRun) : List DstWrite := run.blocks.flatMap BlockRun.stores

/-- The destination with the writes applied, the last one of a cell last. -/
def storeAll (dst : List UInt8) (log : List DstWrite) : List UInt8 :=
  (List.range dst.length).map (WriteLog.applyLog (fun i => dst.getD i 0) log)

/-- **A launch.**  Nobody has written the tile when a block starts. -/
def StageCode.run (stage : StageCode) (launch : Launch) (schedule : Schedule) :
    Option LaunchRun := do
  let args ← stage.kernel.bindArgs launch.args
  let blocks ← (Grid.points launch.grid.1 launch.grid.2).mapM fun block =>
    runPhases (stage.env launch args block) (schedule.tile block) stage.kernel.phases
      (fun _ => none)
      ((Grid.points launch.blockDim launch.blockDim).map fun thread =>
        (thread, StageCode.start launch args))
  some { blocks := blocks, dst := storeAll launch.dst (schedule.dst (blocks.flatMap BlockRun.stores)) }

end Cuda

end Imgjit
