import Imgjit.Core.OpChain

/-!
# The text of a chain

`canonicalString` is what names a chain in the generated source, in logs and on the wire.  A name
must not be shared: if two chains had the same text, a log line would be ambiguous, and so would the
comment at the head of a generated program.

The text is not injective on arbitrary chains, since a parameter is printed with two decimals only.
It is injective on the chains that the parser returns, whose parameters are hundredths within the
bounds of their op.  The argument goes from the outside in: cutting the text at its commas gives the
texts of the ops back, the text of an op splits into a name of the table and a number, no name is a
prefix of another's text, and two numbers of hundredths with the same decimals are equal.

* `opText` — one op of the text; `canonicalString_eq` puts the ops together, a comma before each but
  the first.
* `commaPieces_joined` — cutting at commas gives the ops' texts back.
* `canonicalString_injective` — the text determines an admitted chain.
* `canonicalString_noQuote` — the text has no quote in it, so it fits between quotes where the
  generated source puts it.
-/

namespace Imgjit

/-! ## Joining at commas -/

/-- A comma before each piece but the first. -/
def joined : List (List Char) → List Char
  | [] => []
  | piece :: pieces => piece ++ pieces.flatMap fun later => ',' :: later

/-- The loop that builds such a text, on non-empty pieces. -/
lemma foldl_joined {α : Type} (text : α → List Char) (htext : ∀ a, text a ≠ []) (items : List α) :
    items.foldl (fun acc a => acc ++ (if acc = [] then [] else [',']) ++ text a) []
      = joined (items.map text) := by
  have hfold : ∀ (items : List α) (acc : List Char), acc ≠ [] →
      items.foldl (fun acc a => acc ++ (if acc = [] then [] else [',']) ++ text a) acc
        = acc ++ (items.map text).flatMap fun later => ',' :: later := by
    intro items
    induction items with
    | nil => intro acc _; simp
    | cons a items ih =>
        intro acc hacc
        rw [List.foldl_cons, ih _ (by simp [hacc]), if_neg hacc]
        simp
  cases items with
  | nil => rfl
  | cons a items =>
      rw [List.foldl_cons, hfold items _ (by simp [htext a])]
      rfl

/-- A piece without a comma is one piece. -/
lemma commaPieces_append {piece : List Char} (h : ',' ∉ piece) (rest : List Char) :
    commaPieces (piece ++ ',' :: rest) = piece :: commaPieces rest := by
  induction piece with
  | nil => simp [commaPieces]
  | cons c piece ih =>
      rw [List.mem_cons, not_or] at h
      have hc : c ≠ ',' := fun heq => h.1 heq.symm
      rw [List.cons_append, commaPieces, if_neg hc, ih h.2]

lemma commaPieces_self {piece : List Char} (h : ',' ∉ piece) : commaPieces piece = [piece] := by
  induction piece with
  | nil => rfl
  | cons c piece ih =>
      rw [List.mem_cons, not_or] at h
      have hc : c ≠ ',' := fun heq => h.1 heq.symm
      rw [commaPieces, if_neg hc, ih h.2]

lemma commaPieces_ne_nil (body : List Char) : commaPieces body ≠ [] := by
  cases body with
  | nil => simp [commaPieces]
  | cons c body =>
      rw [commaPieces]
      split_ifs
      · simp
      · split <;> simp

/-- No piece has a comma. -/
lemma commaPieces_noComma {body : List Char} : ∀ piece ∈ commaPieces body, ',' ∉ piece := by
  induction body with
  | nil => simp [commaPieces]
  | cons c body ih =>
      rw [commaPieces]
      split_ifs with hc
      · simpa using ih
      · cases hpieces : commaPieces body with
        | nil => exact absurd hpieces (commaPieces_ne_nil body)
        | cons piece pieces =>
            rw [hpieces] at ih
            intro other hother
            rcases List.mem_cons.mp hother with rfl | hother
            · intro hcomma
              rcases List.mem_cons.mp hcomma with heq | hcomma
              · exact hc heq.symm
              · exact ih piece List.mem_cons_self hcomma
            · exact ih other (List.mem_cons_of_mem _ hother)

/-- **Cutting a joined text at its commas gives the pieces back.** -/
theorem commaPieces_joined {pieces : List (List Char)} (hne : pieces ≠ [])
    (h : ∀ piece ∈ pieces, ',' ∉ piece) : commaPieces (joined pieces) = pieces := by
  induction pieces with
  | nil => exact absurd rfl hne
  | cons piece pieces ih =>
      have hpiece := h piece List.mem_cons_self
      cases pieces with
      | nil => simpa [joined] using commaPieces_self hpiece
      | cons later pieces =>
          have hrest := ih (by simp) fun p hp => h p (List.mem_cons_of_mem _ hp)
          have hjoined : joined (piece :: later :: pieces)
              = piece ++ ',' :: joined (later :: pieces) := by
            simp [joined]
          rw [hjoined, commaPieces_append hpiece, hrest]

/-- Joining the pieces of a body gives the body. -/
lemma joined_commaPieces (body : List Char) : joined (commaPieces body) = body := by
  induction body with
  | nil => rfl
  | cons c body ih =>
      rw [commaPieces]
      split_ifs with hc
      · rw [hc]
        cases hpieces : commaPieces body with
        | nil => exact absurd hpieces (commaPieces_ne_nil body)
        | cons piece pieces =>
            rw [hpieces] at ih
            simp [joined, ← ih]
      · cases hpieces : commaPieces body with
        | nil => exact absurd hpieces (commaPieces_ne_nil body)
        | cons piece pieces =>
            rw [hpieces] at ih
            simp [joined, ← ih]

lemma joined_injective {pieces pieces' : List (List Char)}
    (h : ∀ piece ∈ pieces, piece ≠ [] ∧ ',' ∉ piece)
    (h' : ∀ piece ∈ pieces', piece ≠ [] ∧ ',' ∉ piece) (heq : joined pieces = joined pieces') :
    pieces = pieces' := by
  have hnil : ∀ {piece : List Char} {rest : List (List Char)}, piece ≠ [] →
      joined (piece :: rest) ≠ [] := by
    intro piece rest hpiece hjoined
    exact hpiece (List.append_eq_nil_iff.mp hjoined).1
  cases pieces with
  | nil =>
      cases pieces' with
      | nil => rfl
      | cons piece' pieces' => exact absurd heq.symm (hnil (h' piece' List.mem_cons_self).1)
  | cons piece pieces =>
      cases pieces' with
      | nil => exact absurd heq (hnil (h piece List.mem_cons_self).1)
      | cons piece' pieces' =>
          have hcut := congrArg commaPieces heq
          rwa [commaPieces_joined (by simp) fun p hp => (h p hp).2,
            commaPieces_joined (by simp) fun p hp => (h' p hp).2] at hcut

/-! ## A parameter's text -/

/-- A single digit prints as itself. -/
lemma toList_digit : ∀ d < 10, (toString d).toList = [Nat.digitChar d] := by decide

lemma digitChar_injective : ∀ a < 10, ∀ b < 10, Nat.digitChar a = Nat.digitChar b → a = b := by
  decide

/-- What the texts of chains are cut at is no digit. -/
lemma digitChar_ne : ∀ d < 10, Nat.digitChar d ≠ ',' ∧ Nat.digitChar d ≠ ':' ∧ Nat.digitChar d ≠ '"'
    ∧ Nat.digitChar d ≠ '-' ∧ Nat.digitChar d ≠ '\n' ∧ Nat.digitChar d ≠ 'x'
    ∧ Nat.digitChar d ≠ 'n' := by
  decide

/-- The text of `n` hundredths. -/
def hundredthsText (n : ℤ) : List Char :=
  (if n < 0 then ['-'] else []) ++ [Nat.digitChar (n.natAbs / 100), '.',
    Nat.digitChar (n.natAbs / 10 % 10)]
    ++ if n.natAbs % 10 ≠ 0 then [Nat.digitChar (n.natAbs % 10)] else []

/-- Within the bounds of the op table, a parameter prints digit by digit. -/
lemma formatParam_eq {n : ℤ} (hlow : -100 ≤ n) (hhigh : n ≤ 400) :
    formatParam (n / 100) = hundredthsText n := by
  have hround : lround ((n / 100 : ℚ) * 100) = n := by
    rw [show (n / 100 : ℚ) * 100 = (n : ℚ) by ring]
    exact lround_intCast (le_trans (by decide) hlow) (le_trans hhigh (by decide))
  simp only [formatParam, hround, hundredthsText]
  rw [toList_digit (n.natAbs / 100) (by omega), toList_digit (n.natAbs / 10 % 10) (by omega),
    toList_digit (n.natAbs % 10) (by omega)]
  split_ifs <;> simp

/-- **Hundredths can be read off their text.** -/
theorem hundredthsText_injective {m n : ℤ} (hm : m.natAbs ≤ 400) (hn : n.natAbs ≤ 400)
    (h : hundredthsText m = hundredthsText n) : m = n := by
  have hdigits : ∀ {a b a' b' : ℕ} {tail tail' : List Char}, a < 10 → b < 10 → a' < 10 → b' < 10 →
      [Nat.digitChar a, '.', Nat.digitChar b] ++ tail
        = [Nat.digitChar a', '.', Nat.digitChar b'] ++ tail' →
      a = a' ∧ b = b' ∧ tail = tail' := by
    intro a b a' b' tail tail' ha hb ha' hb' heq
    simp only [List.cons_append, List.nil_append, List.cons.injEq, true_and] at heq
    exact ⟨digitChar_injective a ha a' ha' heq.1, digitChar_injective b hb b' hb' heq.2.1, heq.2.2⟩
  have htail : (if m.natAbs % 10 ≠ 0 then [Nat.digitChar (m.natAbs % 10)] else [])
      = (if n.natAbs % 10 ≠ 0 then [Nat.digitChar (n.natAbs % 10)] else []) →
      m.natAbs % 10 = n.natAbs % 10 := by
    intro heq
    split_ifs at heq with hm0 hn0 hn0
    · exact digitChar_injective _ (by omega) _ (by omega) (List.cons.inj heq).1
    · omega
  simp only [hundredthsText, List.append_assoc] at h
  by_cases hneg : m < 0
  · by_cases hneg' : n < 0
    · rw [if_pos hneg, if_pos hneg', List.append_cancel_left_eq] at h
      rcases hdigits (by omega) (by omega) (by omega) (by omega) h with ⟨hhigh, hmid, hlow⟩
      have hlow' := htail hlow
      omega
    · rw [if_pos hneg, if_neg hneg'] at h
      simp only [List.cons_append, List.nil_append, List.cons.injEq] at h
      exact absurd h.1.symm (digitChar_ne _ (by omega)).2.2.2.1
  · by_cases hneg' : n < 0
    · rw [if_neg hneg, if_pos hneg'] at h
      simp only [List.cons_append, List.nil_append, List.cons.injEq] at h
      exact absurd h.1 (digitChar_ne _ (by omega)).2.2.2.1
    · rw [if_neg hneg, if_neg hneg', List.append_cancel_left_eq] at h
      rcases hdigits (by omega) (by omega) (by omega) (by omega) h with ⟨hhigh, hmid, hlow⟩
      have hlow' := htail hlow
      omega

/-- The characters of such a text. -/
lemma mem_hundredthsText {n : ℤ} (hn : n.natAbs ≤ 400) {c : Char} (h : c ∈ hundredthsText n) :
    c = '-' ∨ c = '.' ∨ ∃ d < 10, c = Nat.digitChar d := by
  simp only [hundredthsText, List.mem_append, List.mem_cons, List.not_mem_nil, or_false] at h
  rcases h with (h | h | h | h) | h
  · split_ifs at h
    · exact .inl (List.mem_singleton.mp h)
    · exact absurd h List.not_mem_nil
  · exact .inr (.inr ⟨_, by omega, h⟩)
  · exact .inr (.inl h)
  · exact .inr (.inr ⟨_, by omega, h⟩)
  · split_ifs at h
    · exact .inr (.inr ⟨_, by omega, List.mem_singleton.mp h⟩)
    · exact absurd h List.not_mem_nil

/-! ## The text of an op -/

/-- One op of the canonical text. -/
def opText (op : Op) : List Char :=
  (opSpec op.kind).name.toList
    ++ if (opSpec op.kind).takesParam then ':' :: formatParam op.param else []

/-- What cannot occur in an op's name, and what can. -/
lemma name_spec (kind : OpKind) : (opSpec kind).name.toList ≠ []
    ∧ ∀ c ∈ (opSpec kind).name.toList, c ≠ ',' ∧ c ≠ ':' ∧ c ≠ '"' ∧ c ≠ '\n' := by
  have hall : (opSpec kind).name.toList.all
      (fun c => c != ',' && c != ':' && c != '"' && c != '\n') = true := by
    cases kind <;> rfl
  have hne : (opSpec kind).name.toList ≠ [] := by
    cases kind <;> exact List.cons_ne_nil _ _
  refine ⟨hne, fun c hc => ?_⟩
  simpa [and_assoc] using List.all_eq_true.mp hall c hc

/-- The names are distinct. -/
lemma name_injective {a b : OpKind} (h : (opSpec a).name.toList = (opSpec b).name.toList) :
    a = b := by
  cases a <;> cases b <;> first | rfl | exact absurd h (by decide)

/-- A text is cut at the first occurrence of a character in one way only. -/
lemma append_cons_inj {α : Type} {c : α} {a b x y : List α} (ha : c ∉ a) (hb : c ∉ b)
    (h : a ++ c :: x = b ++ c :: y) : a = b ∧ x = y := by
  induction a generalizing b with
  | nil =>
      cases b with
      | nil => exact ⟨rfl, (List.cons.inj h).2⟩
      | cons d b => exact absurd (List.cons.inj h).1 fun heq => hb (heq ▸ List.mem_cons_self)
  | cons d a ih =>
      rw [List.mem_cons, not_or] at ha
      cases b with
      | nil => exact absurd (List.cons.inj h).1.symm ha.1
      | cons e b =>
          rw [List.mem_cons, not_or] at hb
          rcases List.cons.inj h with ⟨hhead, htail⟩
          rcases ih ha.2 hb.2 htail with ⟨hab, hxy⟩
          exact ⟨by rw [hhead, hab], hxy⟩

/-- An op that takes no parameter has none. -/
lemma AdmittedOp.param_eq_zero {op : Op} (h : AdmittedOp op)
    (hnone : (opSpec op.kind).takesParam = false) : op.param = 0 := by
  have hmin := h.min_le
  have hmax := h.le_max
  cases hkind : op.kind <;> rw [hkind] at hnone hmin hmax
  case kGrayscale => exact le_antisymm hmax hmin
  case kInvert => exact le_antisymm hmax hmin
  case kSobel => exact le_antisymm hmax hmin
  all_goals exact absurd hnone (by decide)

/-- Of the characters that delimit an op, its text has at most the colon. -/
lemma AdmittedOp.opText_spec {op : Op} (h : AdmittedOp op) :
    opText op ≠ [] ∧ ',' ∉ opText op ∧ '"' ∉ opText op := by
  rcases h.hundredths with ⟨n, hn, hlow, hhigh⟩
  have hname := name_spec op.kind
  have hchar : ∀ c ∈ opText op, c ≠ ',' ∧ c ≠ '"' := by
    intro c hc
    rcases List.mem_append.mp hc with hc | hc
    · exact ⟨(hname.2 c hc).1, (hname.2 c hc).2.2.1⟩
    · split_ifs at hc
      · rcases List.mem_cons.mp hc with rfl | hc
        · exact ⟨by decide, by decide⟩
        · rw [hn, formatParam_eq hlow hhigh] at hc
          rcases mem_hundredthsText (by omega) hc with rfl | rfl | ⟨d, hd, rfl⟩
          · exact ⟨by decide, by decide⟩
          · exact ⟨by decide, by decide⟩
          · exact ⟨(digitChar_ne d hd).1, (digitChar_ne d hd).2.2.1⟩
      · exact absurd hc List.not_mem_nil
  exact ⟨fun hnil => hname.1 (List.append_eq_nil_iff.mp hnil).1, fun hc => (hchar _ hc).1 rfl,
    fun hc => (hchar _ hc).2 rfl⟩

/-- **An op's text determines the op.** -/
theorem opText_injective {a b : Op} (ha : AdmittedOp a) (hb : AdmittedOp b)
    (h : opText a = opText b) : a = b := by
  have hcolon : ∀ kind, ':' ∉ (opSpec kind).name.toList := fun kind hc =>
    ((name_spec kind).2 _ hc).2.1 rfl
  have hkind : a.kind = b.kind ∧ ((opSpec a.kind).takesParam = true →
      formatParam a.param = formatParam b.param) := by
    unfold opText at h
    split_ifs at h with htakes htakes' htakes'
    · rcases append_cons_inj (hcolon _) (hcolon _) h with ⟨hname, hparam⟩
      exact ⟨name_injective hname, fun _ => hparam⟩
    · rw [List.append_nil] at h
      exact absurd (h ▸ List.mem_append_right _ List.mem_cons_self) (hcolon b.kind)
    · rw [List.append_nil] at h
      exact absurd (h.symm ▸ List.mem_append_right _ List.mem_cons_self) (hcolon a.kind)
    · rw [List.append_nil, List.append_nil] at h
      exact ⟨name_injective h, fun htrue => absurd htrue htakes⟩
  rcases a with ⟨kind, param⟩
  rcases b with ⟨kind', param'⟩
  rcases hkind with ⟨rfl, hparam⟩
  cases htakes : (opSpec kind).takesParam with
  | false =>
      have hzero : param = 0 := ha.param_eq_zero htakes
      have hzero' : param' = 0 := hb.param_eq_zero htakes
      rw [hzero, hzero']
  | true =>
      rcases ha.hundredths with ⟨m, hm, hm1, hm2⟩
      rcases hb.hundredths with ⟨n, hn, hn1, hn2⟩
      simp only at hm hn
      have htext := hparam htakes
      rw [hm, hn, formatParam_eq hm1 hm2, formatParam_eq hn1 hn2] at htext
      rw [hm, hn, hundredthsText_injective (by omega) (by omega) htext]

/-! ## The text of a chain -/

/-- **The canonical text is the ops' texts, joined.** -/
theorem canonicalString_eq {chain : OpChain} :
    canonicalString chain = joined (chain.ops.map opText) := by
  have htext : ∀ op, opText op ≠ [] := fun op hnil =>
    (name_spec op.kind).1 (List.append_eq_nil_iff.mp hnil).1
  rw [← foldl_joined opText htext, canonicalString]
  simp only [opText, List.append_assoc]

lemma AdmittedChain.pieces {chain : OpChain} (h : AdmittedChain chain) :
    ∀ piece ∈ chain.ops.map opText, piece ≠ [] ∧ ',' ∉ piece := by
  intro piece hpiece
  rcases List.mem_map.mp hpiece with ⟨op, hop, rfl⟩
  exact ⟨(h op hop).opText_spec.1, (h op hop).opText_spec.2.1⟩

/-- A map that sees less than another. -/
lemma map_eq_of_map_eq {α β γ : Type} {f : α → β} {g : α → γ} {l l' : List α}
    (hfg : ∀ a ∈ l, ∀ b ∈ l', f a = f b → g a = g b) (h : l.map f = l'.map f) :
    l.map g = l'.map g := by
  induction l generalizing l' with
  | nil =>
      rw [List.map_eq_nil_iff.mp h.symm]
  | cons a l ih =>
      cases l' with
      | nil => cases h
      | cons b l' =>
          rw [List.map_cons, List.map_cons, List.cons.injEq] at h
          have hhead := hfg a List.mem_cons_self b List.mem_cons_self h.1
          have htail := ih (fun a ha b hb => hfg a (List.mem_cons_of_mem _ ha) b
            (List.mem_cons_of_mem _ hb)) h.2
          rw [List.map_cons, List.map_cons, hhead, htail]

lemma map_inj_on {α β : Type} {f : α → β} {l l' : List α}
    (hf : ∀ a ∈ l, ∀ b ∈ l', f a = f b → a = b) (h : l.map f = l'.map f) : l = l' := by
  simpa using map_eq_of_map_eq (g := id) hf h

/-- **The canonical text determines the chain.** -/
theorem canonicalString_injective {chain chain' : OpChain} (h : AdmittedChain chain)
    (h' : AdmittedChain chain') (heq : canonicalString chain = canonicalString chain') :
    chain = chain' := by
  rw [canonicalString_eq, canonicalString_eq] at heq
  have hpieces := joined_injective h.pieces h'.pieces heq
  rcases chain with ⟨ops⟩
  rcases chain' with ⟨ops'⟩
  congr 1
  exact map_inj_on (fun a ha b hb => opText_injective (h a ha) (h' b hb)) hpieces

/-- The characters of a joined text are the pieces' and the commas. -/
lemma mem_joined {pieces : List (List Char)} {c : Char} (h : c ∈ joined pieces) :
    c = ',' ∨ ∃ piece ∈ pieces, c ∈ piece := by
  cases pieces with
  | nil => exact absurd h List.not_mem_nil
  | cons piece pieces =>
      rcases List.mem_append.mp h with h | h
      · exact .inr ⟨piece, List.mem_cons_self, h⟩
      · rcases List.mem_flatMap.mp h with ⟨later, hlater, hc⟩
        rcases List.mem_cons.mp hc with rfl | hc
        · exact .inl rfl
        · exact .inr ⟨later, List.mem_cons_of_mem _ hlater, hc⟩

/-- **The canonical text fits between quotes.** -/
theorem canonicalString_noQuote {chain : OpChain} (h : AdmittedChain chain) :
    '"' ∉ canonicalString chain := by
  intro hquote
  rw [canonicalString_eq] at hquote
  rcases mem_joined hquote with hcomma | ⟨piece, hpiece, hc⟩
  · exact absurd hcomma (by decide)
  · rcases List.mem_map.mp hpiece with ⟨op, hop, rfl⟩
    exact (h op hop).opText_spec.2.2 hc

end Imgjit
