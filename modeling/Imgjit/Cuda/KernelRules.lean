import Imgjit.Cuda.Codegen

/-!
# Reasoning about generated kernels

Rules for statements of the kernel language, one per construct, and what the emitted idioms do.  The
results on the emitters never unfold an execution: they take a body apart with these rules, along
the emitter that has put it together.

**The prelude and the oracle.**  `imgjitStoreSample_eq` and its companions say that the prelude
computes what the oracle computes.

**Frames.**  `Frame` is what a statement leaves alone: every emitted fragment writes to scratch
variables of its own, and the fragments behind it rely on the rest.

**The rules.**  `Stmt.Runs` says that a statement has an outcome, and that the outcome satisfies a
postcondition.  `Stmt.Runs.forUpTo` and `Stmt.Runs.forBelow` are the loop rules, with an invariant
over the values of the loop variable; `Stmt.Runs.forColors` is about the loop over the colours of a
pixel, which the emitters unroll.

**Items.**  `RunsItems` is the same judgement for the items of a kernel, where a thread may return
early.
-/

namespace Imgjit

namespace Cuda

/-! ## The prelude and the oracle -/

lemma imgjitClampCoord_eq (v : ℤ) {limit : ℕ} (h : 0 < limit) :
    imgjitClampCoord v limit = (Cpu.clampCoordinate v limit : ℕ) := by
  simp only [imgjitClampCoord, Cpu.clampCoordinate]
  split_ifs <;> omega

lemma imgjitClamp01_eq (v : ℚ) : imgjitClamp01 v = max 0 (min v 1) := by
  simp only [imgjitClamp01]
  split_ifs with h0 h1
  · rw [min_eq_left (by linarith), max_eq_left h0.le]
  · rw [min_eq_right h1.le, max_eq_right zero_le_one]
  · rw [min_eq_left (not_lt.mp h1), max_eq_right (not_lt.mp h0)]

/-- **A kernel stores what the oracle stores.** -/
theorem imgjitStoreSample_eq (v : ℚ) : imgjitStoreSample v = Cpu.storeSample v := by
  rw [imgjitStoreSample, Cpu.storeSample, imgjitClamp01_eq, (Cpu.lround_clamped v).1]

@[simp] lemma imgjitLoadSample_eq (v : UInt8) : imgjitLoadSample v = Cpu.loadSample v := rfl

lemma imgjitQuantize_eq (v : ℚ) :
    imgjitQuantize v = Cpu.loadSample (Cpu.storeSample v) := by
  rw [imgjitQuantize, imgjitStoreSample_eq, imgjitLoadSample_eq]

/-! ## What a statement leaves alone -/

/-- Nothing but the named variables has changed. -/
structure Frame (ints : List IntVar) (floats : List FloatVar) (s s' : ThreadState) : Prop where
  ints : ∀ name ∉ ints, s'.ints name = s.ints name
  floats : ∀ name ∉ floats, s'.floats name = s.floats name
  params : s'.params = s.params
  tileLog : s'.tileLog = s.tileLog
  dstLog : s'.dstLog = s.dstLog
  returned : s'.returned = s.returned

namespace Frame

variable {ints ints' : List IntVar} {floats floats' : List FloatVar} {s s' s'' : ThreadState}

lemma refl (s : ThreadState) : Frame ints floats s s :=
  ⟨fun _ _ => rfl, fun _ _ => rfl, rfl, rfl, rfl, rfl⟩

lemma trans (h : Frame ints floats s s') (h' : Frame ints floats s' s'') :
    Frame ints floats s s'' :=
  ⟨fun name hname => (h'.ints name hname).trans (h.ints name hname),
    fun name hname => (h'.floats name hname).trans (h.floats name hname),
    h'.params.trans h.params, h'.tileLog.trans h.tileLog, h'.dstLog.trans h.dstLog,
    h'.returned.trans h.returned⟩

lemma mono (h : Frame ints floats s s') (hints : ints ⊆ ints') (hfloats : floats ⊆ floats') :
    Frame ints' floats' s s' :=
  ⟨fun name hname => h.ints name fun hmem => hname (hints hmem),
    fun name hname => h.floats name fun hmem => hname (hfloats hmem),
    h.params, h.tileLog, h.dstLog, h.returned⟩

lemma setInt (s : ThreadState) {name : IntVar} (value : ℤ) (h : name ∈ ints) :
    Frame ints floats s (s.setInt name value) := by
  refine ⟨fun name' hname' => Function.update_of_ne ?_ _ _, fun _ _ => rfl, rfl, rfl, rfl, rfl⟩
  rintro rfl
  exact hname' h

lemma setArray (s : ThreadState) {name : FloatVar} (values : List (Option ℚ)) (h : name ∈ floats) :
    Frame ints floats s (s.setArray name values) := by
  refine ⟨fun _ _ => rfl, fun name' hname' => Function.update_of_ne ?_ _ _, rfl, rfl, rfl, rfl⟩
  rintro rfl
  exact hname' h

end Frame

@[simp] lemma setInt_ints_self (s : ThreadState) (name : IntVar) (value : ℤ) :
    (s.setInt name value).ints name = value := Function.update_self ..

@[simp] lemma setArray_floats_self (s : ThreadState) (name : FloatVar)
    (values : List (Option ℚ)) : (s.setArray name values).floats name = values :=
  Function.update_self ..

lemma setInt_ints_of_ne (s : ThreadState) {name name' : IntVar} (value : ℤ) (h : name' ≠ name) :
    (s.setInt name value).ints name' = s.ints name' := Function.update_of_ne h ..

lemma setArray_floats_of_ne (s : ThreadState) {name name' : FloatVar}
    (values : List (Option ℚ)) (h : name' ≠ name) :
    (s.setArray name values).floats name' = s.floats name' := Function.update_of_ne h ..

@[simp] lemma setInt_floats (s : ThreadState) (name : IntVar) (value : ℤ) :
    (s.setInt name value).floats = s.floats := rfl

@[simp] lemma setArray_ints (s : ThreadState) (name : FloatVar) (values : List (Option ℚ)) :
    (s.setArray name values).ints = s.ints := rfl

/-! ## The rules -/

/-- The statement has an outcome, and the outcome satisfies `post`. -/
def Stmt.Runs (env : Env) (body : Stmt) (s : ThreadState) (post : ThreadState → Prop) : Prop :=
  ∃ s', body.exec env s = some s' ∧ post s'

namespace Stmt.Runs

variable {env : Env} {s : ThreadState} {post mid : ThreadState → Prop}

lemma mono {body : Stmt} (h : body.Runs env s mid) (himp : ∀ s', mid s' → post s') :
    body.Runs env s post := by
  obtain ⟨s', hexec, hmid⟩ := h
  exact ⟨s', hexec, himp s' hmid⟩

lemma nop (h : post s) : Stmt.nop.Runs env s post := ⟨s, rfl, h⟩

lemma seq {first second : Stmt} (hfirst : first.Runs env s mid)
    (hsecond : ∀ s', mid s' → second.Runs env s' post) : (Stmt.seq first second).Runs env s post := by
  obtain ⟨s', hexec, hmid⟩ := hfirst
  obtain ⟨s'', hexec', hpost⟩ := hsecond s' hmid
  exact ⟨s'', by rw [Stmt.exec, hexec, Option.bind_some, hexec'], hpost⟩

/-- The same, with the state in between spelled out. -/
lemma via (mid : ThreadState → Prop) {first second : Stmt} (hfirst : first.Runs env s mid)
    (hsecond : ∀ s', mid s' → second.Runs env s' post) : (Stmt.seq first second).Runs env s post :=
  hfirst.seq hsecond

lemma block {body : Stmt} (h : body.Runs env s post) : (Stmt.block body).Runs env s post := h

lemma int {name : IntVar} {value : IntExpr}
    (h : post (s.setInt name (value.eval env s.ints))) : (Stmt.int name value).Runs env s post :=
  ⟨_, rfl, h⟩

lemma array {name : FloatVar} {size : ℕ} {init : Option ℚ}
    (h : post (s.setArray name (List.replicate size init))) :
    (Stmt.array name size init).Runs env s post := ⟨_, rfl, h⟩

lemma float {name : FloatVar} {value : FloatExpr} {result : ℚ}
    (heval : value.eval env s = some result) (h : post (s.setArray name [some result])) :
    (Stmt.float name value).Runs env s post :=
  ⟨_, by rw [Stmt.exec, heval]; rfl, h⟩

lemma set {name : FloatVar} {c : ℕ} {value : FloatExpr} {result : ℚ}
    (heval : value.eval env s = some result) (hc : c < (s.floats name).length)
    (h : post (s.setArray name ((s.floats name).set c (some result)))) :
    (Stmt.set name c value).Runs env s post := by
  refine ⟨_, ?_, h⟩
  rw [Stmt.exec, heval]
  exact if_pos hc

lemma accumulate {name : FloatVar} {c : ℕ} {value : FloatExpr} {old result : ℚ}
    (hold : s.cell name c = some old) (heval : value.eval env s = some result)
    (hc : c < (s.floats name).length)
    (h : post (s.setArray name ((s.floats name).set c (some (old + result))))) :
    (Stmt.accumulate name c value).Runs env s post := by
  refine ⟨_, ?_, h⟩
  rw [Stmt.exec, hold, heval]
  exact if_pos hc

lemma setDst {index : IntExpr} {value : ByteExpr} {b : UInt8} {n : ℕ}
    (hindex : index.eval env s.ints = n) (heval : value.eval env s = some b)
    (hn : n < env.dstSize) (h : post { s with dstLog := s.dstLog ++ [(n, b)] }) :
    (Stmt.setDst index value).Runs env s post := by
  refine ⟨_, ?_, h⟩
  rw [Stmt.exec, heval, hindex]
  simp only [Option.bind_eq_bind, Option.bind_some, Env.storeDst, Int.toNat_natCast]
  rw [if_pos (by omega)]

lemma setTile {plane : ℕ} {row column : IntExpr} {value : FloatExpr} {result : ℚ}
    {r c edge planes : ℕ}
    (hshape : env.tileShape = some ⟨planes, edge⟩) (hrow : row.eval env s.ints = r)
    (hcolumn : column.eval env s.ints = c) (heval : value.eval env s = some result)
    (hplane : plane < planes) (hr : r < edge) (hc : c < edge)
    (h : post { s with tileLog := s.tileLog ++ [((plane, (r : ℤ), (c : ℤ)), result)] }) :
    (Stmt.setTile plane row column value).Runs env s post := by
  refine ⟨_, ?_, h⟩
  rw [Stmt.exec, heval, hrow, hcolumn]
  simp only [Option.bind_eq_bind, Option.bind_some, Env.storeTile, hshape]
  rw [if_pos (by omega)]

lemma callTap {x y : IntExpr} {target : FloatVar} {args : List ℕ} {scalars : List ℚ}
    {values : List (Option ℚ)} (hargs : args.mapM s.params = some scalars)
    (htap : env.tap (x.eval env s.ints) (y.eval env s.ints) (s.floats target) scalars = some values)
    (h : post (s.setArray target values)) : (Stmt.callTap x y target args).Runs env s post := by
  refine ⟨_, ?_, h⟩
  rw [Stmt.exec, hargs]
  simp only [Option.bind_eq_bind, Option.bind_some, htap]

end Stmt.Runs

/-! ## Loops -/

/-- A fold whose body keeps an invariant has an outcome. -/
lemma foldlM_invariant {α σ : Type} {f : σ → α → Option σ} {Inv : List α → σ → Prop} (l : List α)
    (hstep : ∀ (done : List α) (value : α) (rest : List α) (s : σ), l = done ++ value :: rest →
      Inv done s → ∃ s', f s value = some s' ∧ Inv (done ++ [value]) s')
    {s : σ} (h : Inv [] s) : ∃ s', l.foldlM f s = some s' ∧ Inv l s' := by
  suffices hall : ∀ (rest done : List α) (s : σ), l = done ++ rest → Inv done s →
      ∃ s', rest.foldlM f s = some s' ∧ Inv l s' from hall l [] s rfl h
  intro rest
  induction rest with
  | nil =>
      intro done s hl hs
      rw [List.append_nil] at hl
      exact ⟨s, rfl, hl ▸ hs⟩
  | cons value rest ih =>
      intro done s hl hs
      obtain ⟨s', hf, hs'⟩ := hstep done value rest s hl hs
      obtain ⟨s'', hrest, hs''⟩ := ih (done ++ [value]) s' (by simpa using hl) hs'
      exact ⟨s'', by rw [List.foldlM_cons, hf]; exact hrest, hs''⟩

namespace Stmt.Runs

variable {env : Env} {s : ThreadState}

/-- **The rule of the `<=` loop.** -/
theorem forUpTo {name : IntVar} {first last : IntExpr} {body : Stmt}
    (Inv : List ℤ → ThreadState → Prop) (h : Inv [] s)
    (hstep : ∀ (done : List ℤ) (value : ℤ) (rest : List ℤ) (s' : ThreadState),
      Cpu.loopValues (first.eval env s.ints) (last.eval env s.ints) = done ++ value :: rest →
      Inv done s' → body.Runs env (s'.setInt name value) (Inv (done ++ [value]))) :
    (Stmt.forUpTo name first last body).Runs env s
      (Inv (Cpu.loopValues (first.eval env s.ints) (last.eval env s.ints))) :=
  foldlM_invariant _ hstep h

/-- **The rule of the striding loop.** -/
theorem forBelow {name : IntVar} {first : IntExpr} {bound step : ℕ} {body : Stmt}
    (Inv : List ℕ → ThreadState → Prop) (h : Inv [] s)
    (hstep : ∀ (done : List ℕ) (value : ℕ) (rest : List ℕ) (s' : ThreadState),
      Grid.strideValues (first.eval env s.ints).toNat bound step = done ++ value :: rest →
      Inv done s' → body.Runs env (s'.setInt name value) (Inv (done ++ [value]))) :
    (Stmt.forBelow name first bound step body).Runs env s
      (Inv (Grid.strideValues (first.eval env s.ints).toNat bound step)) :=
  foldlM_invariant _ hstep h

/-- **The rule of an unrolled loop over the colours.** -/
theorem forColors {colors : ℕ} {emit : ℕ → Stmt} (Inv : ℕ → ThreadState → Prop) (h : Inv 0 s)
    (hstep : ∀ c < colors, ∀ s', Inv c s' → (emit c).Runs env s' (Inv (c + 1))) :
    (Stmt.forColors colors emit).Runs env s (Inv colors) := by
  suffices hall : ∀ (n c : ℕ) (s : ThreadState), c + n = colors → Inv c s →
      (Stmt.all ((List.range' c n).map emit)).Runs env s (Inv colors) by
    rw [Stmt.forColors, List.range_eq_range']
    exact hall colors 0 s (Nat.zero_add _) h
  intro n
  induction n with
  | zero =>
      intro c s hc hs
      exact Stmt.Runs.nop (by rwa [← hc])
  | succ n ih =>
      intro c s hc hs
      exact (hstep c (by omega) s hs).seq fun s' hs' => ih (c + 1) s' (by omega) hs'

end Stmt.Runs

/-- The thread has stored these bytes on top. -/
def ThreadState.stored (s : ThreadState) (log : List DstWrite) : ThreadState :=
  { s with dstLog := s.dstLog ++ log }

@[simp] lemma stored_cell (s : ThreadState) (log : List DstWrite) (name : FloatVar) (c : ℕ) :
    (s.stored log).cell name c = s.cell name c := rfl

/-! ## Arrays of one value per colour -/

/-- An array that holds `values c` for each colour. -/
def cells (colors : ℕ) (values : ℕ → ℚ) : List (Option ℚ) :=
  (List.range colors).map fun c => some (values c)

@[simp] lemma length_cells (colors : ℕ) (values : ℕ → ℚ) : (cells colors values).length = colors := by
  simp [cells]

lemma cells_succ (c : ℕ) (values : ℕ → ℚ) :
    cells (c + 1) values = cells c values ++ [some (values c)] := by
  simp [cells, List.range_succ]

/-- Reading a colour. -/
lemma cell_of_cells {s : ThreadState} {name : FloatVar} {colors c : ℕ} {values : ℕ → ℚ}
    (h : s.floats name = cells colors values) (hc : c < colors) :
    s.cell name c = some (values c) := by
  simp [ThreadState.cell, h, cells, hc]

/-- A partly overwritten array: the first `c` cells are new. -/
def overwritten (c : ℕ) (values : ℕ → ℚ) (old : List (Option ℚ)) : List (Option ℚ) :=
  cells c values ++ old.drop c

lemma overwritten_all (values : ℕ → ℚ) (old : List (Option ℚ)) :
    overwritten old.length values old = cells old.length values := by
  simp [overwritten]

lemma overwritten_step {c : ℕ} {values : ℕ → ℚ} {old : List (Option ℚ)} (h : c < old.length) :
    (overwritten c values old).set c (some (values c)) = overwritten (c + 1) values old := by
  rw [overwritten, overwritten, cells_succ, List.drop_eq_getElem_cons h,
    List.set_append_right _ _ (by simp), length_cells, Nat.sub_self, List.set_cons_zero]
  simp

/-- The cells behind the new ones are still the old ones. -/
lemma getElem?_overwritten {c c' : ℕ} {values : ℕ → ℚ} {old : List (Option ℚ)} (h : c ≤ c') :
    (overwritten c values old)[c']? = old[c']? := by
  rw [overwritten, List.getElem?_append_right (by simpa using h), length_cells,
    List.getElem?_drop]
  congr 1
  omega

namespace Stmt.Runs

variable {env : Env} {s : ThreadState} {post : ThreadState → Prop}

/-- **`name[c] = value` for every colour.**  A value may read the cell it is about to replace. -/
theorem setColors {colors : ℕ} {name : FloatVar} {value : ℕ → FloatExpr} (values : ℕ → ℚ)
    (hlength : (s.floats name).length = colors)
    (hvalue : ∀ c < colors, ∀ s', Frame [] [name] s s' →
      s'.floats name = overwritten c values (s.floats name) →
      (value c).eval env s' = some (values c))
    (h : ∀ s', Frame [] [name] s s' → s'.floats name = cells colors values → post s') :
    (Stmt.forColors colors fun c => .set name c (value c)).Runs env s post := by
  refine mono (forColors (fun c s' => Frame [] [name] s s'
      ∧ s'.floats name = overwritten c values (s.floats name))
    ⟨Frame.refl s, by simp [overwritten, cells]⟩ fun c hc s' ⟨hframe, harray⟩ => ?_)
    fun s' ⟨hframe, harray⟩ => h s' hframe ?_
  · have hlt : c < (s.floats name).length := hlength ▸ hc
    refine Runs.set (hvalue c hc s' hframe harray) ?_
      ⟨hframe.trans (Frame.setArray _ _ List.mem_cons_self), ?_⟩
    · rw [harray, overwritten, List.length_append, length_cells, List.length_drop]
      omega
    · rw [setArray_floats_self, harray, overwritten_step hlt]
  · rw [harray, ← hlength, overwritten_all]

/-- `name[c] += value`, in a loop over the colours that has come to `c`. -/
lemma accumulateCell {colors c : ℕ} {name : FloatVar} {value : FloatExpr} {old new : ℕ → ℚ}
    {result : ℚ} (harray : s.floats name = overwritten c new (cells colors old)) (hc : c < colors)
    (heval : value.eval env s = some result) (hnew : new c = old c + result)
    (h : ∀ s', Frame [] [name] s s' →
      s'.floats name = overwritten (c + 1) new (cells colors old) → post s') :
    (Stmt.accumulate name c value).Runs env s post := by
  have hlt : c < (cells colors old).length := by rwa [length_cells]
  have hold : s.cell name c = some (old c) := by
    simp only [ThreadState.cell, harray, getElem?_overwritten le_rfl]
    simp [cells, hc]
  refine Runs.accumulate hold heval ?_ (h _ (Frame.setArray _ _ List.mem_cons_self) ?_)
  · rw [harray, overwritten, List.length_append, length_cells, List.length_drop]
    omega
  · rw [setArray_floats_self, harray, ← hnew, overwritten_step hlt]

end Stmt.Runs

/-! ## Items -/

/-- The items of a phase have an outcome, and it satisfies `post`. -/
def RunsItems (env : Env) (items : List Item) (s : ThreadState) (post : ThreadState → Prop) : Prop :=
  ∃ s', runItems env items s = some s' ∧ post s'

namespace RunsItems

variable {env : Env} {s : ThreadState} {post mid : ThreadState → Prop} {rest : List Item}

lemma mono {items : List Item} (h : RunsItems env items s mid) (himp : ∀ s', mid s' → post s') :
    RunsItems env items s post := by
  obtain ⟨s', hrun, hmid⟩ := h
  exact ⟨s', hrun, himp s' hmid⟩

lemma nil (h : post s) : RunsItems env [] s post := ⟨s, rfl, h⟩

lemma stmt {body : Stmt} (hbody : body.Runs env s mid)
    (hrest : ∀ s', mid s' → RunsItems env rest s' post) :
    RunsItems env (.stmt body :: rest) s post := by
  obtain ⟨s', hexec, hmid⟩ := hbody
  obtain ⟨s'', hrun, hpost⟩ := hrest s' hmid
  exact ⟨s'', by rw [runItems, hexec, Option.bind_some, hrun], hpost⟩

lemma via (mid : ThreadState → Prop) {body : Stmt} (hbody : body.Runs env s mid)
    (hrest : ∀ s', mid s' → RunsItems env rest s' post) :
    RunsItems env (.stmt body :: rest) s post :=
  stmt hbody hrest

lemma returnIf_true {condition : IntCond} (hcondition : condition.eval env s.ints = true)
    (h : post { s with returned := true }) : RunsItems env (.returnIf condition :: rest) s post :=
  ⟨_, by rw [runItems, if_pos hcondition], h⟩

lemma returnIf_false {condition : IntCond} (hcondition : condition.eval env s.ints = false)
    (h : RunsItems env rest s post) : RunsItems env (.returnIf condition :: rest) s post := by
  obtain ⟨s', hrun, hpost⟩ := h
  refine ⟨s', ?_, hpost⟩
  rw [runItems, if_neg (by rw [hcondition]; exact Bool.false_ne_true), hrun]

end RunsItems

end Cuda

end Imgjit
