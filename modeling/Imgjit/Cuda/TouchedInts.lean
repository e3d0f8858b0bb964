import Imgjit.Cuda.StageRanges

/-!
# Integers that a thread is sure to compute

That all accesses of a thread are in range says nothing if it makes none.  Whoever wants to show
that a launch overflows has to point to an access and to say that it is made, in a kernel of which
nothing is known but that the generator has emitted it.  Here are the accesses that a thread of an
emitted kernel is sure to make, whatever the stage.

**The tile.**  `tileLoad_touches`: the column and the row of every cell that the thread stages.

**The pixel.**  `pixel_touches`: the index of the last sample of its pixel, if it has one.  This is
the last thing that a thread does, so one has to know that the coordinates are still in their
variables behind the body of the kernel.  `Stmt.assigned` collects the variables that a statement
may write, and `Stmt.intsAfter_agree` says that it leaves the others alone; a stencil's body writes
to its loop variables, and the coordinates are not among them.
-/

namespace Imgjit

open Exceptions

namespace Cuda

/-! ## Variables that a statement writes -/

/-- The `int` variables that a statement may write. -/
def Stmt.assigned : Stmt → List IntVar
  | seq first second => first.assigned ++ second.assigned
  | int name _ => [name]
  | block body => body.assigned
  | forUpTo name _ _ body => name :: body.assigned
  | forBelow name _ _ _ body => name :: body.assigned
  | nop => []
  | comment _ => []
  | array _ _ _ => []
  | float _ _ => []
  | set _ _ _ => []
  | accumulate _ _ _ => []
  | callTap _ _ _ _ => []
  | setTile _ _ _ _ => []
  | setDst _ _ => []

/-- The turns of a loop, each of which leaves the other variables alone. -/
lemma foldl_agree {names : List IntVar} {turn : Ints → ℤ → Ints}
    (h : ∀ ints value, Ints.Agree names ints (turn ints value)) (values : List ℤ) (ints : Ints) :
    Ints.Agree names ints (values.foldl turn ints) := by
  induction values generalizing ints with
  | nil => exact .refl _ _
  | cons value values ih => exact (h ints value).trans (ih _)

/-- **A statement leaves the other variables alone**, by induction on it. -/
theorem Stmt.intsAfter_agree (env : Env) (body : Stmt) (ints : Ints) :
    Ints.Agree body.assigned ints (body.intsAfter env ints) := by
  have hturn : ∀ (name : IntVar) (body : Stmt),
      (∀ ints, Ints.Agree body.assigned ints (body.intsAfter env ints)) →
      ∀ (ints : Ints) (value : ℤ), Ints.Agree (name :: body.assigned) ints
        (body.intsAfter env (Function.update ints name value)) := by
    intro name body ih ints value
    have hcounter := (Ints.Agree.refl (name :: body.assigned) ints).update name value
      List.mem_cons_self
    exact hcounter.trans ((ih _).mono (List.subset_cons_self _ _))
  induction body generalizing ints with
  | seq first second ihFirst ihSecond =>
      exact ((ihFirst ints).mono (List.subset_append_left _ _)).trans
        ((ihSecond _).mono (List.subset_append_right _ _))
  | int name value => exact (Ints.Agree.refl _ _).update name _ List.mem_cons_self
  | block body ih => exact ih ints
  | forUpTo name first last body ih => exact foldl_agree (hturn name body ih) _ _
  | forBelow name first bound step body ih => exact foldl_agree (hturn name body ih) _ _
  | _ => exact .refl _ _

/-- An unrolled loop over the colours that writes no `int`. -/
lemma assigned_forColors {emit : ℕ → Stmt} (h : ∀ c, (emit c).assigned = []) (colors : ℕ) :
    (Stmt.forColors colors emit).assigned = [] := by
  have hall : ∀ cs : List ℕ, (Stmt.all (cs.map emit)).assigned = [] := by
    intro cs
    induction cs with
    | nil => rfl
    | cons c cs ih => exact List.append_eq_nil_iff.mpr ⟨h c, ih⟩
  exact hall _

/-- A stencil writes the variables of its window, and of its place in the tile. -/
lemma emitStencilBody_assigned (stencil : Op) (baked : ℤ) (colors : ℕ) (tiled runtimeRadius : Bool)
    (tapArgs : List ℕ) :
    (emitStencilBody stencil baked colors tiled runtimeRadius tapArgs).assigned ⊆ bodyInts := by
  have hcoordinates : ∀ r, (emitCoordinates tiled r).assigned ⊆ bodyInts := by
    intro r
    cases tiled with
    | false => exact List.nil_subset _
    | true => exact show ([.lx, .ly] : List IntVar) ⊆ bodyInts by decide
  have hfetch : (emitFetch colors tiled tapArgs).assigned = [] := by
    cases tiled with
    | false => rfl
    | true => exact assigned_forColors (fun _ => rfl) colors
  have hset : ∀ value : ℕ → FloatExpr,
      (Stmt.forColors colors fun c => .set .v c (value c)).assigned = [] :=
    fun _ => assigned_forColors (fun _ => rfl) colors
  have haccumulate : ∀ value : ℕ → FloatExpr,
      (Stmt.forColors colors fun c => .accumulate .acc c (value c)).assigned = [] :=
    fun _ => assigned_forColors (fun _ => rfl) colors
  have hsums : ∀ gx gy : ℕ → FloatExpr, (Stmt.forColors colors fun c =>
      .seq (.accumulate .gx c (gx c)) (.accumulate .gy c (gy c))).assigned = [] :=
    fun _ _ => assigned_forColors (fun _ => rfl) colors
  unfold emitStencilBody
  split_ifs
  · simp only [Stmt.all, Stmt.assigned, hfetch, hset, haccumulate, List.nil_append, List.append_nil,
      List.append_subset, hcoordinates, true_and]
    decide
  · simp only [Stmt.all, Stmt.assigned, hfetch, hset, hsums, List.nil_append, List.append_nil,
      List.append_subset, hcoordinates, true_and]
    decide

/-- The load phase writes the variables of its loop. -/
lemma emitTileLoad_assigned {radius : ℤ} {tileSize colors : ℕ} {shape : TileShape} {load : Stmt}
    (h : emitTileLoad radius tileSize colors = .ok (shape, load)) : load.assigned ⊆ loadInts := by
  unfold emitTileLoad at h
  simp only at h
  split_ifs at h
  cases h
  have hcells : (Stmt.forColors colors fun c =>
      .setTile c (.var .ty) (.var .tx) (.cell .t c)).assigned = [] :=
    assigned_forColors (fun _ => rfl) colors
  simp only [Stmt.all, Stmt.assigned, hcells, List.append_nil]
  decide

/-! ## Accesses that a thread makes -/

section Member

variable {env : Env} {tap : ℤ → ℤ → List Access} {ints : Ints}

/-- One turn of the load loop reads one column and one row. -/
lemma loadTurn_touches {colors edge k : ℕ} {column row : ℤ} (hX0 : ints .tileX0 = column)
    (hY0 : ints .tileY0 = row) (hk : ints .k = k) {access : Access}
    (haccess : access = .int (column + ((k % edge : ℕ) : ℤ))
      ∨ access = .int (row + ((k / edge : ℕ) : ℤ))) :
    access ∈ (loadTurn edge colors).touches env tap ints := by
  have hdiv : (k : ℤ).tdiv edge = ((k / edge : ℕ) : ℤ) := (Int.ofNat_tdiv k edge).symm
  have hmod : (k : ℤ) - ((k / edge : ℕ) : ℤ) * edge = ((k % edge : ℕ) : ℤ) := by
    have hsum : ((k / edge * edge + k % edge : ℕ) : ℤ) = k :=
      congrArg Nat.cast (Nat.div_add_mod' k edge)
    push_cast at hsum ⊢
    linarith
  refine List.mem_append_right _ (List.mem_append_right _ (List.mem_append_right _
    (List.mem_append_left _ (List.mem_append_left _ ?_))))
  simp only [Stmt.intsAfter, IntExpr.evaluated, IntExpr.eval, Function.update_self,
    Function.update_of_ne, ne_eq, reduceCtorEq, not_false_eq_true, hk, hX0, hY0, hdiv, hmod,
    List.mem_append, List.mem_cons]
  rcases haccess with rfl | rfl
  · exact .inl (.inr (.inl rfl))
  · exact .inr (.inr (.inl rfl))

/-- **The columns and rows that a thread reads** for its cells of the tile. -/
theorem tileLoad_touches (radius k : ℕ) {dim colors : ℕ} {shape : TileShape} {load : Stmt}
    (h : emitTileLoad radius dim colors = .ok (shape, load)) (hdim : 0 < dim)
    (hk : k < (dim + 2 * radius) * (dim + 2 * radius))
    (hfirst : env.thread.2 * dim + env.thread.1 ≤ k)
    (hmod : k % (dim * dim) = (env.thread.2 * dim + env.thread.1) % (dim * dim)) {access : Access}
    (haccess : access = .int (((env.block.1 * dim : ℕ) : ℤ) - radius
        + ((k % (dim + 2 * radius) : ℕ) : ℤ))
      ∨ access = .int (((env.block.2 * dim : ℕ) : ℤ) - radius
        + ((k / (dim + 2 * radius) : ℕ) : ℤ))) :
    access ∈ load.touches env tap ints := by
  have hedge : ((dim : ℤ) + 2 * radius).toNat = dim + 2 * radius := by omega
  unfold emitTileLoad at h
  simp only [hedge] at h
  split_ifs at h
  cases h
  have hnumber : ∀ ints : Ints, (IntExpr.eval env ints (.ofUnsigned
      (.add (.mul (.threadIdx .y) (.lit dim)) (.threadIdx .x)))).toNat
        = env.thread.2 * dim + env.thread.1 := by
    intro ints
    simp only [IntExpr.eval, Axis.of, ← Nat.cast_mul, ← Nat.cast_add, Int.toNat_natCast]
  refine List.mem_append_right _ (List.mem_append_right _ (List.mem_append_left _
    (List.mem_append_right _ ?_)))
  refine mem_loopTouches (fun ints => ints .tileX0 = ((env.block.1 * dim : ℕ) : ℤ) - radius
      ∧ ints .tileY0 = ((env.block.2 * dim : ℕ) : ℤ) - radius) (List.mem_map_of_mem
    ((Grid.mem_strideValues (Nat.mul_pos hdim hdim)).mpr ⟨hk, ?_, ?_⟩)) ⟨?_, ?_⟩
    (fun value ints hints => ?_) fun ints hints => ?_
  · rw [hnumber]
    exact hfirst
  · rw [hnumber]
    exact hmod
  · simp only [Stmt.intsAfter, IntExpr.eval, Axis.of, Function.update_self, Function.update_of_ne,
      ne_eq, reduceCtorEq, not_false_eq_true, Nat.cast_mul]
  · simp only [Stmt.intsAfter, IntExpr.eval, Axis.of, Function.update_self, Nat.cast_mul]
  · rcases hints with ⟨hX0, hY0⟩
    have hcells : ∀ ints : Ints, (Stmt.forColors colors fun c =>
        .setTile c (.var .ty) (.var .tx) (.cell .t c)).intsAfter env ints = ints :=
      intsAfter_forColors env colors fun _ _ => rfl
    simp only [Stmt.all, Stmt.intsAfter, hcells, Function.update_of_ne, ne_eq, reduceCtorEq,
      not_false_eq_true]
    exact ⟨hX0, hY0⟩
  · rcases hints with ⟨hX0, hY0⟩
    have hcounter : Function.update ints .k (k : ℤ) .k = k := Function.update_self ..
    rw [← Function.update_of_ne (show IntVar.tileX0 ≠ .k by decide) (k : ℤ) ints] at hX0
    rw [← Function.update_of_ne (show IntVar.tileY0 ≠ .k by decide) (k : ℤ) ints] at hY0
    exact .tail _ (.tail _ (loadTurn_touches hX0 hY0 hcounter haccess))

/-- The stores of a pixel count up to its last sample, a colour or alpha. -/
lemma stores_touches {channels : ℕ} {index : ℤ} (hindex : ints .i = index)
    (hchannels : channels = 1 ∨ channels = 3 ∨ channels = 4) :
    .int (index + ((channels - 1 : ℕ) : ℤ)) ∈ touchesItems env tap
      [.stmt (.forColors (Cpu.colorChannels channels) fun c =>
        .setDst (.add (.var .i) (.lit c)) (.storeSample (.cell .v c))),
       .stmt (if channels = 4 then
         .setDst (.add (.var .i) (.lit 3)) (.src (.add (.var .i) (.lit 3)))
        else .nop)] ints := by
  have hoffset : ∀ (c : ℕ) (value : ByteExpr), .int (index + (c : ℤ))
      ∈ (Stmt.setDst (.add (.var .i) (.lit c)) value).touches env tap ints := by
    intro c value
    refine List.mem_append_left _ (List.mem_append_left _ ?_)
    rw [← hindex]
    exact List.mem_append_right _ List.mem_cons_self
  by_cases hfour : channels = 4
  · subst hfour
    refine List.mem_append_right _ (List.mem_append_left _ ?_)
    rw [intsAfter_forColors env _ fun _ _ => rfl]
    exact hoffset 3 _
  · refine List.mem_append_left _ (mem_touches_forColors ?_ (fun _ _ => rfl) (hoffset _ _))
    rw [Cpu.colorChannels, if_neg hfour]
    omega

/-- **The last sample of a pixel** is counted by its thread. -/
theorem pixel_touches {width height channels x y : ℕ}
    (hcolumn : env.block.1 * env.blockDim + env.thread.1 = x)
    (hrow : env.block.2 * env.blockDim + env.thread.2 = y) (hx : x < width) (hy : y < height)
    (hwidth : ints .width = width) (hheight : ints .height = height)
    (hchannels : channels = 1 ∨ channels = 3 ∨ channels = 4) {body epilogue : Stmt}
    (hbody : ∀ ints, body.intsAfter env ints .i = ints .i)
    (hepilogue : ∀ ints, epilogue.intsAfter env ints .i = ints .i) :
    .int (((y * width + x) * channels : ℕ) + ((channels - 1 : ℕ) : ℤ))
      ∈ touchesItems env tap (emitPixel channels (Cpu.colorChannels channels) body epilogue)
        ints := by
  have hx' : ((env.block.1 : ℤ) * env.blockDim + env.thread.1) = x := by exact_mod_cast hcolumn
  have hy' : ((env.block.2 : ℤ) * env.blockDim + env.thread.2) = y := by exact_mod_cast hrow
  refine List.mem_append_right _ (List.mem_append_right _ (List.mem_append_right _ ?_))
  rw [if_neg ?_]
  · refine List.mem_append_right _ (List.mem_append_right _ (List.mem_append_right _
      (List.mem_append_right _ (stores_touches ?_ hchannels))))
    rw [hepilogue, hbody]
    simp only [Stmt.intsAfter, sampleIndex, IntExpr.eval, Axis.of, Function.update_self,
      Function.update_of_ne, ne_eq, reduceCtorEq, not_false_eq_true, hwidth, hx', hy']
    push_cast
    rfl
  · simp only [Stmt.intsAfter, IntCond.eval, IntExpr.eval, Axis.of, Function.update_self,
      Function.update_of_ne, ne_eq, reduceCtorEq, not_false_eq_true, hwidth, hheight, hx', hy',
      Bool.or_eq_true, decide_eq_true_eq]
    omega

end Member

/-- The last sample of the last pixel is the last of the frame. -/
lemma lastSample_add_one {width height channels : ℕ} (hw : 0 < width) (hh : 0 < height)
    (hc : 0 < channels) :
    ((height - 1) * width + (width - 1)) * channels + (channels - 1) + 1
      = width * height * channels := by
  rcases Nat.exists_eq_add_of_lt hw with ⟨w, rfl⟩
  rcases Nat.exists_eq_add_of_lt hh with ⟨h, rfl⟩
  rcases Nat.exists_eq_add_of_lt hc with ⟨c, rfl⟩
  simp only [Nat.zero_add, Nat.add_sub_cancel]
  ring

end Cuda

end Imgjit
