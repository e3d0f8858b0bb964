import Imgjit.Core.ChainText
import Imgjit.Library.Tokens

/-!
# The language of op chains

What `parse_op_chain` accepts, said without a scanner.  The source walks the text with an index: it
looks for the next comma from where it stands, cuts a piece out, parses it as one op and goes on
behind the comma.  A reader of the protocol wants to know which texts are chains, and that is a
question about a language.  This file answers it with a grammar that mentions no position, no
cursor and no order of checks, and proves that the scanner recognizes exactly that language.

Three descriptions of the same thing meet here.

**By position.**  `scanOpChain` is the loop of the source, index and all, and `parseOpChainInto` is
the entry point with its error pointer.

**By piece.**  `OpChain.lean` has the same loop over the list of the pieces between the commas.
`scanOpChain_eq` says that the two loops agree, so nothing after it mentions a position.

**By grammar.**  `PieceOf` and `ChainOf` are the declarative description: names of the table, at
most one number a piece, blanks wherever they separate nothing, and the number rounded to hundredths
before its bounds are checked.

`op_chain_language` puts them together: the accepted texts are those of the grammar, each with the
chain that the grammar gives it, and every rejection has a reason.
-/

namespace Imgjit

open Tokens

/-! ## The scanner, by position -/

/-- `body.find(c, position)`. -/
def find (c : Char) (body : List Char) (position : ℕ) : Option ℕ :=
  ((body.drop position).findIdx? (· == c)).map (position + ·)

/-- `body.substr(position, count)`, with `npos` for a count that reaches to the end. -/
def substr (body : List Char) (position : ℕ) (count : Option ℕ) : List Char :=
  match count with
  | none => body.drop position
  | some count => (body.drop position).take count

lemma find_some {c : Char} {body : List Char} {position comma : ℕ}
    (h : find c body position = some comma) :
    ∃ count, (body.drop position).findIdx? (· == c) = some count ∧ comma = position + count := by
  rcases Option.map_eq_some_iff.mp h with ⟨count, hcount, rfl⟩
  exact ⟨count, hcount, rfl⟩

/-- `while (position <= body.size())`: one op a turn, appended to the chain so far. -/
def scanOps (strtof : List Char → Option ℚ) (body : List Char) (position : ℕ) (ops : List Op) :
    Except String OpChain :=
  if position ≤ body.length then
    let count := (find ',' body position).map (· - position)
    match parseOp strtof (trim (substr body position count)) with
    | .error message => .error message
    | .ok op =>
        match _hcomma : find ',' body position with
        | none => .ok ⟨ops ++ [op]⟩
        | some comma => scanOps strtof body (comma + 1) (ops ++ [op])
  else .ok ⟨ops⟩
  termination_by body.length + 1 - position
  decreasing_by
    rcases find_some _hcomma with ⟨count, -, rfl⟩
    omega

/-- The body of `parse_op_chain`: the text is trimmed, a blank one is the empty chain, and any other
is scanned from its first character. -/
def scanOpChain (strtof : List Char → Option ℚ) (text : List Char) : Except String OpChain :=
  let body := trim text
  if body = [] then .ok ⟨[]⟩ else scanOps strtof body 0 []

/-- `fail`: the message goes to the caller's string, if there is one. -/
def fail (error : Option String) (message : String) : Option String := error.map fun _ => message

/-- `parse_op_chain`, with what its error pointer points to before and after the call. -/
def parseOpChainInto (strtof : List Char → Option ℚ) (text : List Char) (error : Option String) :
    Option OpChain × Option String :=
  match scanOpChain strtof text with
  | .ok chain => (some chain, error)
  | .error message => (none, fail error message)

/-! ## Positions and pieces -/

/-- The pieces from a position on: the one up to the next comma, and those behind it. -/
lemma commaPieces_find (body : List Char) (position : ℕ) :
    commaPieces (body.drop position)
      = substr body position ((find ',' body position).map (· - position))
        :: match find ',' body position with
          | none => []
          | some comma => commaPieces (body.drop (comma + 1)) := by
  cases hcount : (body.drop position).findIdx? (· == ',') with
  | none =>
      have hcomma : ',' ∉ body.drop position := by
        intro hmem
        have hnone := List.findIdx?_eq_none_iff.mp hcount _ hmem
        simp at hnone
      simp only [find, hcount, Option.map_none, substr]
      exact commaPieces_self hcomma
  | some count =>
      rcases findIdx?_cut hcount with ⟨c, hc, htext, hbefore⟩
      have hcomma : ',' ∉ (body.drop position).take count := by
        intro hmem
        have hfalse := hbefore _ hmem
        simp at hfalse
      rw [beq_iff_eq] at hc
      subst hc
      simp only [find, hcount, Option.map_some, substr, Nat.add_sub_cancel_left]
      conv_lhs => rw [htext]
      rw [commaPieces_append hcomma, List.drop_drop, Nat.add_assoc]

/-- What one turn leaves to the next. -/
lemma scanOps_turn (strtof : List Char → Option ℚ) (body : List Char) (position : ℕ)
    (ops : List Op) (hposition : position ≤ body.length) :
    scanOps strtof body position ops
      = match parseOp strtof
          (trim (substr body position ((find ',' body position).map (· - position)))) with
        | .error message => .error message
        | .ok op =>
            match find ',' body position with
            | none => .ok ⟨ops ++ [op]⟩
            | some comma => scanOps strtof body (comma + 1) (ops ++ [op]) := by
  rw [scanOps, if_pos hposition]
  simp only
  cases parseOp strtof
      (trim (substr body position ((find ',' body position).map (· - position)))) with
  | error message => rfl
  | ok op =>
      show (match _hcomma : find ',' body position with
        | none => _
        | some comma => _) = _
      split
      · rename_i hnone
        rw [hnone]
      · rename_i comma hsome
        rw [hsome]

/-- The loop from a position is the loop over the pieces from there. -/
lemma scanOps_eq (strtof : List Char → Option ℚ) (body : List Char) (position : ℕ) (ops : List Op)
    (hposition : position ≤ body.length) :
    scanOps strtof body position ops
      = (parseOps strtof (commaPieces (body.drop position))).map fun rest => ⟨ops ++ rest⟩ := by
  induction hleft : body.length - position using Nat.strong_induction_on
    generalizing position ops with
  | _ left ih =>
      rw [scanOps_turn _ _ _ _ hposition, commaPieces_find, parseOps]
      cases parseOp strtof
          (trim (substr body position ((find ',' body position).map (· - position)))) with
      | error message => rfl
      | ok op =>
          cases hcomma : find ',' body position with
          | none => rfl
          | some comma =>
              rcases find_some hcomma with ⟨count, hcount, rfl⟩
              have hcount := (List.findIdx?_eq_some_iff_getElem.mp hcount).1
              rw [List.length_drop] at hcount
              show scanOps strtof body (position + count + 1) (ops ++ [op]) = _
              rw [ih _ (by omega) _ _ (by omega) rfl]
              cases parseOps strtof (commaPieces (body.drop (position + count + 1))) with
              | error message => rfl
              | ok rest =>
                  simp [Except.map, bind, Except.bind]

/-- **Walking the text by position is going through its pieces.** -/
theorem scanOpChain_eq (strtof : List Char → Option ℚ) (text : List Char) :
    scanOpChain strtof text = parseOpChain strtof text := by
  simp only [scanOpChain, parseOpChain]
  split_ifs with hbody
  · rfl
  · rw [scanOps_eq _ _ _ _ (Nat.zero_le _), List.drop_zero]
    cases parseOps strtof (commaPieces (trim text)) <;> rfl

/-! ## The grammar -/

/-- The parameter a number stands for: hundredths, halves away from zero, without a bound. -/
def hundredthsOf (number : ℚ) : ℚ := Rounding.roundAway (number * 100) / 100

/-- A piece between two commas that denotes an op: a name of the table, or a name and a number at
the first colon.  Blanks are free around the piece, the name and the number. -/
inductive PieceOf (strtof : List Char → Option ℚ) (piece : List Char) : Op → Prop where
  | name {spec : OpSpec} (hspec : spec ∈ kOpSpecs)
      (hpiece : Strips isSpace piece spec.name.toList) :
      PieceOf strtof piece ⟨spec.kind, spec.defaultParam⟩
  | number {spec : OpSpec} {left right parameter : List Char} {number : ℚ}
      (hspec : spec ∈ kOpSpecs) (htakes : spec.takesParam = true)
      (hpiece : Strips isSpace piece (left ++ ':' :: right)) (hcolon : ':' ∉ left)
      (hname : Strips isSpace left spec.name.toList) (hright : Strips isSpace right parameter)
      (hparameter : parameter ≠ []) (hnumber : strtof parameter = some number)
      (hmin : spec.minParam ≤ hundredthsOf number) (hmax : hundredthsOf number ≤ spec.maxParam) :
      PieceOf strtof piece ⟨spec.kind, hundredthsOf number⟩

/-- A text that denotes a chain: nothing but blanks, or pieces with a comma between any two and
none inside, one op a piece. -/
inductive ChainOf (strtof : List Char → Option ℚ) (text : List Char) : OpChain → Prop where
  | blank (htext : Strips isSpace text []) : ChainOf strtof text ⟨[]⟩
  | pieces {pieces : List (List Char)} {ops : List Op}
      (htext : Strips isSpace text (joined pieces)) (hne : joined pieces ≠ [])
      (hcomma : ∀ piece ∈ pieces, ',' ∉ piece) (hops : List.Forall₂ (PieceOf strtof) pieces ops) :
      ChainOf strtof text ⟨ops⟩

/-! ## The scanner reads the grammar -/

lemma trim_iff {text body : List Char} : trim text = body ↔ Strips isSpace text body := strips_iff

/-- Within an op's bounds. -/
def InBounds (kind : OpKind) (param : ℚ) : Prop :=
  (opSpec kind).minParam ≤ param ∧ param ≤ (opSpec kind).maxParam

/-- Saturation is out of reach: it changes nothing that is within an op's bounds before or after. -/
lemma quantizeParam_eq {kind : OpKind} {number : ℚ}
    (h : InBounds kind (quantizeParam number) ∨ InBounds kind (hundredthsOf number)) :
    quantizeParam number = hundredthsOf number := by
  have hround : lround (number * 100) = Rounding.roundAway (number * 100) := by
    have hlround : lround (number * 100)
        = max longMin (min longMax (Rounding.roundAway (number * 100))) := rfl
    have hmin : longMin = -2 ^ 63 := rfl
    have hmax : longMax = 2 ^ 63 - 1 := rfl
    rcases h with h | h
    · have hbounds := hundredths_range h.1 h.2
      omega
    · have hbounds := hundredths_range h.1 h.2
      omega
  rw [quantizeParam, hround, hundredthsOf]

/-- The table is searched by name. -/
lemma findSpec_iff {name : List Char} {spec : OpSpec} :
    findSpec name = some spec ↔ spec ∈ kOpSpecs ∧ spec.name.toList = name := by
  constructor
  · intro h
    exact ⟨List.mem_of_find?_eq_some h, by simpa using List.find?_some h⟩
  · rintro ⟨hspec, rfl⟩
    rw [mem_kOpSpecs hspec]
    cases spec.kind <;> rfl

lemma name_noColon {spec : OpSpec} (h : spec ∈ kOpSpecs) : ∀ c ∈ spec.name.toList, c ≠ ':' := by
  rw [mem_kOpSpecs h]
  exact fun c hc => ((name_spec spec.kind).2 c hc).2.1

/-- What a turn makes of a bare name. -/
lemma parseOp_name (strtof : List Char → Option ℚ) {spec : OpSpec} (hspec : spec ∈ kOpSpecs)
    (hname : trim spec.name.toList = spec.name.toList) :
    parseOp strtof spec.name.toList = .ok ⟨spec.kind, spec.defaultParam⟩ := by
  have hall : ∀ c ∈ spec.name.toList, (c != ':') = true := by
    simpa using name_noColon hspec
  have hne : spec.name.toList ≠ [] := by
    rw [mem_kOpSpecs hspec]
    exact (name_spec spec.kind).1
  rw [parseOp, if_neg hne, List.takeWhile_eq_self_iff.mpr hall, hname,
    List.dropWhile_eq_nil_iff.mpr hall]
  simp only [findSpec_iff.mpr ⟨hspec, rfl⟩]

/-- What a turn makes of a name, a colon and what follows. -/
lemma parseOp_colon (strtof : List Char → Option ℚ) {spec : OpSpec} {left : List Char}
    (right : List Char) (hspec : spec ∈ kOpSpecs) (hcolon : ':' ∉ left)
    (hname : trim left = spec.name.toList) (op : Op) :
    parseOp strtof (left ++ ':' :: right) = .ok op
      ↔ spec.takesParam = true ∧ ∃ number, parseFloat strtof (trim right) = some number
        ∧ InBounds spec.kind (quantizeParam number) ∧ op = ⟨spec.kind, quantizeParam number⟩ := by
  have hall : ∀ c ∈ left, (c == ':') = false := by
    intro c hc
    simpa using fun heq : c = ':' => hcolon (heq ▸ hc)
  have hleft : (left ++ ':' :: right).takeWhile (· != ':') = left :=
    takeWhile_cut hall (by rfl) right
  have hright : (left ++ ':' :: right).dropWhile (· != ':') = ':' :: right :=
    dropWhile_cut hall (by rfl) right
  have hbounds : ∀ value, InBounds spec.kind value
      ↔ ¬ (value < spec.minParam ∨ value > spec.maxParam) := by
    intro value
    rw [InBounds, ← mem_kOpSpecs hspec, not_or, not_lt, gt_iff_lt, not_lt]
  rw [parseOp, if_neg (by simp), hleft, hname, hright]
  simp only [findSpec_iff.mpr ⟨hspec, rfl⟩]
  cases spec.takesParam with
  | false => simp
  | true =>
      cases parseFloat strtof (trim right) with
      | none => simp
      | some number =>
          by_cases hmem : InBounds spec.kind (quantizeParam number)
          · have hrange := (hbounds _).mp hmem
            simp [hmem, hrange, eq_comm]
          · have hrange := not_not.mp (mt (hbounds _).mpr hmem)
            simp [hmem, hrange]

/-- **One turn of the scanner accepts the pieces of the grammar.** -/
theorem parseOp_iff {strtof : List Char → Option ℚ} {piece : List Char} {op : Op} :
    parseOp strtof (trim piece) = .ok op ↔ PieceOf strtof piece op := by
  constructor
  · intro h
    have hpiece : Strips isSpace piece (trim piece) := trim_iff.mp rfl
    have hsplit := List.takeWhile_append_dropWhile (p := (· != ':')) (l := trim piece)
    have hleft : ':' ∉ (trim piece).takeWhile (· != ':') := by
      intro hmem
      simpa using List.mem_takeWhile_imp hmem
    have hspec : ∃ spec ∈ kOpSpecs,
        trim ((trim piece).takeWhile (· != ':')) = spec.name.toList := by
      unfold parseOp at h
      split_ifs at h
      simp only at h
      split at h
      · cases h
      · rename_i spec hfind
        rcases findSpec_iff.mp hfind with ⟨hmem, hname⟩
        exact ⟨spec, hmem, hname.symm⟩
    rcases hspec with ⟨spec, hspec, hname⟩
    cases hright : (trim piece).dropWhile (· != ':') with
    | nil =>
        rw [hright, List.append_nil] at hsplit
        rw [hsplit] at hname
        have htoken : trim piece = spec.name.toList := by
          rw [← hname]
          exact (trim_iff.mpr hpiece.idem).symm
        rw [htoken] at h hpiece hname
        rw [parseOp_name strtof hspec hname] at h
        cases h
        exact .name hspec hpiece
    | cons c right =>
        have hc : c = ':' := by
          have hnot := List.head?_dropWhile_not (· != ':') (trim piece)
          rw [hright] at hnot
          simpa using hnot
        rw [hright, hc] at hsplit
        rw [← hsplit] at h hpiece
        rcases (parseOp_colon strtof right hspec hleft hname op).mp h with
          ⟨htakes, number, hnumber, hbounds, rfl⟩
        have hquantize := quantizeParam_eq (.inl hbounds)
        rw [hquantize, InBounds, ← mem_kOpSpecs hspec] at hbounds
        rw [parseFloat] at hnumber
        split_ifs at hnumber with hparameter
        rw [hquantize]
        exact .number hspec htakes hpiece hleft (trim_iff.mp hname) (trim_iff.mp rfl) hparameter
          hnumber hbounds.1 hbounds.2
  · intro h
    cases h with
    | name hspec hpiece =>
        rw [trim_iff.mpr hpiece]
        exact parseOp_name strtof hspec (trim_iff.mpr hpiece.idem)
    | @number spec left right parameter number hspec htakes hpiece hcolon hname hright hparameter
        hnumber hmin hmax =>
        have hbounds : InBounds spec.kind (hundredthsOf number) := by
          rw [InBounds, ← mem_kOpSpecs hspec]
          exact ⟨hmin, hmax⟩
        have hquantize := quantizeParam_eq (.inr hbounds)
        rw [trim_iff.mpr hpiece, parseOp_colon strtof right hspec hcolon (trim_iff.mpr hname)]
        refine ⟨htakes, number, ?_, by rwa [hquantize], by rw [hquantize]⟩
        rw [trim_iff.mpr hright, parseFloat, if_neg hparameter, hnumber]

/-- The loop accepts the pieces, one op a piece and in their order. -/
theorem parseOps_iff {strtof : List Char → Option ℚ} {pieces : List (List Char)} {ops : List Op} :
    parseOps strtof pieces = .ok ops ↔ List.Forall₂ (PieceOf strtof) pieces ops := by
  induction pieces generalizing ops with
  | nil => simp [parseOps, eq_comm]
  | cons piece pieces ih =>
      rw [List.forall₂_cons_left_iff, parseOps]
      cases hop : parseOp strtof (trim piece) with
      | error message =>
          refine iff_of_false (fun h => by cases h) ?_
          rintro ⟨op, ops, hpiece, -, -⟩
          rw [parseOp_iff.mpr hpiece] at hop
          cases hop
      | ok op =>
          cases hops : parseOps strtof pieces with
          | error message =>
              refine iff_of_false (fun h => by cases h) ?_
              rintro ⟨op, rest, -, hrest, -⟩
              rw [ih.mpr hrest] at hops
              cases hops
          | ok rest =>
              constructor
              · intro h
                cases h
                exact ⟨op, rest, parseOp_iff.mp hop, ih.mp hops, rfl⟩
              · rintro ⟨op', rest', hpiece, hrest, rfl⟩
                rw [parseOp_iff.mpr hpiece] at hop
                rw [ih.mpr hrest] at hops
                cases hop
                cases hops
                rfl

/-! ## Whole texts -/

lemma joined_ne_nil {pieces : List (List Char)} (h : joined pieces ≠ []) : pieces ≠ [] :=
  fun hnil => h (by rw [hnil, joined])

/-- **The parser's language is the grammar's**, and so is what it makes of a text. -/
theorem parseOpChain_iff {strtof : List Char → Option ℚ} {text : List Char} {chain : OpChain} :
    parseOpChain strtof text = .ok chain ↔ ChainOf strtof text chain := by
  rcases chain with ⟨ops⟩
  have hops : ∀ (body : List Char),
      ((do let ops ← parseOps strtof (commaPieces body); .ok ⟨ops⟩ : Except String OpChain)
          = .ok ⟨ops⟩)
        ↔ List.Forall₂ (PieceOf strtof) (commaPieces body) ops := by
    intro body
    rw [← parseOps_iff]
    cases parseOps strtof (commaPieces body) with
    | error message => exact iff_of_false (fun h => by cases h) (fun h => by cases h)
    | ok found => simp [bind, Except.bind]
  simp only [parseOpChain]
  constructor
  · intro h
    have htext : Strips isSpace text (trim text) := trim_iff.mp rfl
    split_ifs at h with hbody
    · cases h
      rw [hbody] at htext
      exact .blank htext
    · have hjoined := joined_commaPieces (trim text)
      refine @ChainOf.pieces strtof text (commaPieces (trim text)) ops ?_ ?_ commaPieces_noComma
        ((hops _).mp h)
      · rwa [hjoined]
      · rwa [hjoined]
  · intro h
    cases h with
    | blank htext =>
        rw [if_pos (trim_iff.mpr htext)]
    | @pieces pieces ops htext hne hcomma hforall =>
        rw [trim_iff.mpr htext, if_neg hne, hops,
          commaPieces_joined (joined_ne_nil hne) hcomma]
        exact hforall

/-! ## Rejections -/

/-- Every rejection of a token has a text. -/
lemma parseOp_error {strtof : List Char → Option ℚ} {token : List Char} {message : String}
    (h : parseOp strtof token = .error message) : message ≠ "" := by
  unfold parseOp at h
  split_ifs at h
  · cases h
    decide
  · simp only at h
    split at h
    · cases h
      simp [String.append_eq_empty_iff]
    · split at h
      · cases h
      · split_ifs at h
        · cases h
          simp [String.append_eq_empty_iff]
        · split at h
          · cases h
            simp [String.append_eq_empty_iff]
          · split_ifs at h
            cases h
            simp [String.append_eq_empty_iff]

lemma parseOps_error {strtof : List Char → Option ℚ} {pieces : List (List Char)}
    {message : String} (h : parseOps strtof pieces = .error message) : message ≠ "" := by
  induction pieces generalizing message with
  | nil => cases h
  | cons piece pieces ih =>
      rw [parseOps] at h
      cases hop : parseOp strtof (trim piece) with
      | error found =>
          rw [hop] at h
          cases h
          exact parseOp_error hop
      | ok op =>
          cases hops : parseOps strtof pieces with
          | error found =>
              rw [hop, hops] at h
              cases h
              exact ih hops
          | ok ops =>
              rw [hop, hops] at h
              cases h

lemma parseOpChain_error {strtof : List Char → Option ℚ} {text : List Char} {message : String}
    (h : parseOpChain strtof text = .error message) : message ≠ "" := by
  simp only [parseOpChain] at h
  split_ifs at h
  cases hops : parseOps strtof (commaPieces (trim text)) with
  | error found =>
      rw [hops] at h
      cases h
      exact parseOps_error hops
  | ok ops =>
      rw [hops] at h
      cases h

/-- **The language of op chains.**  A text is accepted exactly when the grammar gives it a chain,
and that chain is returned; a rejected text leaves a reason wherever the caller asked for one. -/
theorem op_chain_language (strtof : List Char → Option ℚ) (text : List Char) :
    (∀ error chain, (parseOpChainInto strtof text error).1 = some chain
        ↔ ChainOf strtof text chain)
      ∧ ∀ error, (parseOpChainInto strtof text (some error)).1 = none →
          ∃ reason, (parseOpChainInto strtof text (some error)).2 = some reason ∧ reason ≠ "" := by
  constructor
  · intro error chain
    rw [← parseOpChain_iff, ← scanOpChain_eq, parseOpChainInto]
    cases scanOpChain strtof text with
    | error message => simp
    | ok found => simp
  · intro error h
    rw [parseOpChainInto] at h ⊢
    cases hscan : scanOpChain strtof text with
    | error message =>
        rw [scanOpChain_eq] at hscan
        exact ⟨message, rfl, parseOpChain_error hscan⟩
    | ok chain =>
        rw [hscan] at h
        cases h

end Imgjit
