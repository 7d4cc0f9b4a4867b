import Elementwise.Proofs.Compilation.Outcome
import Elementwise.Proofs.Number.Quotient

/-!
# Dispatch sizes are exact

The dispatch of a map kernel comes out of a chain of rounded operations: the product of the
dimensions, its quotient by the lanes, and the quotient of the vectors by the workgroup size. As
long as no product of dimensions reaches `2 ^ 53`, each of them gives the exact integer, so the
dispatch covers every whole vector of the output and pads less than one workgroup.
-/

namespace Elementwise

open Build

/-! ### Counting elements -/

/-- Multiplying by one dimension after the other is exact, and only a negative zero among the
dimensions can give a negative zero. -/
lemma isNat_foldl_mul {dims : List Number} {ns : List ℕ} (h : List.Forall₂ Number.IsNat dims ns)
    {product : Number} {n : ℕ} (hproduct : product.IsNat n)
    (hproducts : ∀ front, front <+: ns → n * front.prod < 2 ^ 53) :
    (dims.foldl (· * ·) product).IsNat (n * ns.prod) ∧
      (product ≠ .negZero → .negZero ∉ dims → dims.foldl (· * ·) product ≠ .negZero) := by
  induction h generalizing product n with
  | nil => simpa using hproduct
  | @cons d m dims ns hd _ ih =>
    have hfirst : n * m < 2 ^ 53 := by simpa using hproducts [m] (by simp)
    have hrest : ∀ front, front <+: ns → n * m * front.prod < 2 ^ 53 := by
      intro front hfront
      simpa [mul_assoc] using hproducts (m :: front) (by simpa using hfront)
    obtain ⟨hvalue, hsign⟩ := ih (hproduct.mul hd hfirst) hrest
    refine ⟨by simpa [mul_assoc] using hvalue, ?_⟩
    intro hne hdims
    rw [List.mem_cons, not_or] at hdims
    refine hsign ?_ hdims.2
    rw [hproduct.eq_ofInt hne, hd.eq_ofInt (Ne.symm hdims.1), Number.ofInt_mul_ofInt hfirst]
    exact nofun

/-- The number of elements is the product of the dimensions. -/
lemma isNat_elementCount {dims : List Number} {ns : List ℕ}
    (h : List.Forall₂ Number.IsNat dims ns)
    (hproducts : ∀ front, front <+: ns → front.prod < 2 ^ 53) :
    (elementCount dims).IsNat ns.prod ∧ (.negZero ∉ dims → elementCount dims ≠ .negZero) := by
  have hfold := isNat_foldl_mul h (Number.isNat_ofInt 1) (by simpa using hproducts)
  rw [one_mul] at hfold
  exact ⟨hfold.1, hfold.2 nofun⟩

/-! ### Counting workgroups -/

/-- The number of workgroups of size `w` for the whole vectors among `n` elements. -/
def workgroupCount (n lanes w : ℕ) : ℕ := ⌈(⌊(n : ℚ) / lanes⌋₊ : ℚ) / w⌉₊

lemma workgroupCount_eq (n lanes w : ℕ) :
    workgroupCount n lanes w = ⌈((n / lanes : ℕ) : ℚ) / w⌉₊ := by
  rw [workgroupCount, Rat.natFloor_natCast_div_natCast]

/-- Every whole vector has an invocation, and the last workgroup is not empty. -/
lemma workgroupCount_bounds (n lanes : ℕ) {w : ℕ} (hw : 0 < w) :
    n / lanes ≤ workgroupCount n lanes w * w ∧ workgroupCount n lanes w * w < n / lanes + w := by
  have hwPos : (0 : ℚ) < w := by exact_mod_cast hw
  rw [workgroupCount_eq]
  constructor
  · have hle := Nat.le_ceil (((n / lanes : ℕ) : ℚ) / w)
    rw [div_le_iff₀ hwPos] at hle
    exact_mod_cast hle
  · have hlt := Nat.ceil_lt_add_one (show 0 ≤ ((n / lanes : ℕ) : ℚ) / w by positivity)
    rw [← sub_lt_iff_lt_add, lt_div_iff₀ hwPos, sub_mul, one_mul, sub_lt_iff_lt_add] at hlt
    exact_mod_cast hlt

lemma lt_of_mem_lanes {lanes : ℕ} (h : lanes ∈ [2, 3, 4]) : 0 < lanes ∧ lanes < 2 ^ 53 := by
  simp only [List.mem_cons, List.not_mem_nil, or_false] at h
  omega

/-- A workgroup size from 1 up may be divided by. -/
lemma ceilDiv_ofInt (value : Number) {w : ℕ} (hw : 0 < w) :
    ceilDiv value (Number.ofInt w) = .ok (value / Number.ofInt w).ceil := by
  have hle : Number.le (Number.ofInt w) 0 = decide ((w : ℚ) ≤ 0) := Number.le_finite w 0
  have hpos : ¬ (w : ℚ) ≤ 0 := not_le.mpr (by exact_mod_cast hw)
  have hinteger : Number.isInteger (Number.ofInt w) = true := by
    simp [Number.isInteger, Number.ofInt]
  rw [ceilDiv, hle, hinteger, decide_eq_false hpos]
  rfl

lemma mapDispatch_of_isNat {length : Number} {n lanes w : ℕ} {size : Extent}
    (hlength : length.IsNat n) (hn : n < 2 ^ 53) (hlanes : lanes ∈ [2, 3, 4])
    (hsize : size.x = Number.ofInt w) (hw : 0 < w) (hwLt : w < 2 ^ 53) :
    ∃ x, mapDispatch length (Number.ofInt lanes) size = .ok ⟨x, 1, 1⟩ ∧
      x.IsNat (workgroupCount n lanes w) ∧
      (length ≠ .negZero → x = Number.ofInt (workgroupCount n lanes w)) := by
  obtain ⟨hlanesPos, hlanesLt⟩ := lt_of_mem_lanes hlanes
  have hvectors : n / lanes < 2 ^ 53 := (Nat.div_le_self n lanes).trans_lt hn
  refine ⟨((length / Number.ofInt lanes).floor / Number.ofInt w).ceil, ?_, ?_, ?_⟩
  · rw [mapDispatch, hsize, ceilDiv_ofInt _ hw]
    rfl
  · rw [workgroupCount_eq]
    exact (hlength.floor_div hn hlanesPos hlanesLt).ceil_div hvectors hw hwLt
  · intro hne
    rw [hlength.eq_ofInt hne, Number.floor_ofInt_div hn hlanesPos hlanesLt,
      Number.ceil_ofInt_div hvectors hw hwLt, workgroupCount_eq]

/-! ### Compiled nodes -/

/-- Options with vectors and a positive workgroup size give a dispatch. -/
lemma exists_dispatchFor {options : KernelOptions} {length : Number} {n lanes w : ℕ}
    (hlength : length.IsNat n) (hn : n < 2 ^ 53)
    (hlanes : vectorLanes? options.layout.elementType = some lanes)
    (hsize : options.workgroupSize.x = Number.ofInt w) (hw : 0 < w) (hwLt : w < 2 ^ 53) :
    ∃ x, dispatchFor length options = .ok ⟨x, 1, 1⟩ ∧ x.IsNat (workgroupCount n lanes w) ∧
      (length ≠ .negZero → x = Number.ofInt (workgroupCount n lanes w)) := by
  rw [dispatchFor, vectorLanes, hlanes]
  exact mapDispatch_of_isNat hlength hn (List.mem_of_find?_eq_some hlanes) hsize hw hwLt

/-- In a session, a node that is not refused ends as the dispatch for its first output does. -/
lemma Session.exists_result_compile {τ : Type} (session : Session) {node : Node}
    {lower : τ → Template} {registry : Registry τ} {shapes : ShapeTable}
    (hlower : ∀ template, registry.find? node.op = some template → lower template = lowerMap)
    (h : node.refusal? registry shapes = none) {output : String}
    (houtput : node.outputs.head? = some output) {dims : List Number}
    (hdims : shapes output = some dims) (options : KernelOptions) :
    ∃ artifact, (session.build (node.compile lower registry shapes options)).result =
      (dispatchFor (elementCount dims) options).map (⟨artifact, ·⟩) := by
  obtain ⟨r, found, _, hfound, hexec⟩ := exec_compile_of_not_refused hlower h options session.start
  have heq : found = dims := by
    simpa [Node.resolved, Node.context, ShapeTable.dims, houtput, hdims, eq_comm] using hfound
  subst heq
  refine ⟨session.start.provided r.key r.kernel, ?_⟩
  rw [Session.build_eq, hexec]

/-- Dispatches are exact and cover the output. Let the dimensions of the first output be natural
numbers whose products from the first one on stay below `2 ^ 53`. Then the node compiles unless it
is refused, and its dispatch counts the workgroups for the whole vectors of the output: each vector
has an invocation, less than one workgroup of invocations is idle, and the elements without an
invocation do not fill a vector. -/
theorem dispatch_compile_exact {τ : Type} (session : Session) {node : Node} {lower : τ → Template}
    {registry : Registry τ}
    (map : ∀ template, registry.find? node.op = some template → lower template = lowerMap)
    {shapes : ShapeTable} {output : String} (first : node.outputs.head? = some output)
    {dims : List Number} (shape : shapes output = some dims) {ns : List ℕ}
    (natural : List.Forall₂ Number.IsNat dims ns)
    (products : ∀ front, front <+: ns → front.prod ≤ 2 ^ 53 - 1)
    {choices : KernelOptions.Choices} {lanes : ℕ}
    (vectors : vectorLanes? choices.complete.layout.elementType = some lanes)
    {w : ℕ} (size : choices.complete.workgroupSize.x = Number.ofInt w)
    (positive : 1 ≤ w) (safe : w ≤ 2 ^ 53 - 1) :
    let result := (session.build (node.compile lower registry shapes choices.complete)).result
    let n := ns.prod
    let d := ⌈(⌊(n : ℚ) / lanes⌋₊ : ℚ) / w⌉₊
    ((∃ compiled, result = .ok compiled) ↔ node.refusal? registry shapes = none) ∧
      (∀ compiled, result = .ok compiled →
        (∃ x, compiled.dispatch = ⟨x, 1, 1⟩ ∧ x.IsNat d) ∧
        (.negZero ∉ dims → compiled.dispatch = ⟨Number.ofInt d, 1, 1⟩)) ∧
      n / lanes ≤ d * w ∧ d * w - n / lanes < w ∧ n - lanes * min (d * w) (n / lanes) < lanes := by
  intro result n d
  have hproducts : ∀ front, front <+: ns → front.prod < 2 ^ 53 := by
    intro front hfront
    have := products front hfront
    omega
  obtain ⟨hcount, hsign⟩ := isNat_elementCount natural hproducts
  obtain ⟨x, hdispatch, hx, hxSign⟩ := exists_dispatchFor hcount
    (hproducts ns (List.prefix_refl ns)) vectors size positive (by omega)
  obtain ⟨hlow, hhigh⟩ : n / lanes ≤ d * w ∧ d * w < n / lanes + w :=
    workgroupCount_bounds n lanes positive
  have hok : node.refusal? registry shapes = none →
      ∃ artifact, result = .ok ⟨artifact, ⟨x, 1, 1⟩⟩ := by
    intro hrefusal
    obtain ⟨artifact, hartifact⟩ :=
      session.exists_result_compile map hrefusal first shape choices.complete
    rw [hdispatch] at hartifact
    exact ⟨artifact, hartifact⟩
  have hnotRefused : ∀ compiled, result = .ok compiled → node.refusal? registry shapes = none := by
    intro compiled hcompiled
    cases hrefusal : node.refusal? registry shapes with
    | none => rfl
    | some failure =>
      simp only [result, Session.build_eq, exec_compile_of_refusal map hrefusal] at hcompiled
      cases hcompiled
  refine ⟨⟨?_, ?_⟩, ?_, hlow, by omega, ?_⟩
  · rintro ⟨compiled, hcompiled⟩
    exact hnotRefused compiled hcompiled
  · intro hrefusal
    obtain ⟨artifact, hartifact⟩ := hok hrefusal
    exact ⟨_, hartifact⟩
  · -- a count of zero may be the negative zero, if a dimension is
    intro compiled hcompiled
    obtain ⟨artifact, hartifact⟩ := hok (hnotRefused compiled hcompiled)
    rw [hartifact, Except.ok.injEq] at hcompiled
    subst hcompiled
    exact ⟨⟨x, rfl, hx⟩, fun hdims => by rw [hxSign (hsign hdims)]; rfl⟩
  · -- every vector has an invocation, so what is left over is a remainder
    rw [min_eq_right hlow, ← Nat.mod_eq_sub]
    exact Nat.mod_lt n (lt_of_mem_lanes (List.mem_of_find?_eq_some vectors)).1

/-- Three dimensions whose product is the greatest safe integer, in vectors of three lanes. -/
theorem dispatch_compile_exact_greatest :
    let node : Node := ⟨"Abs", ["x"], ["y"], none⟩
    let dims : List Number := [6361, 69431, 20394401]
    let shapes : ShapeTable := .ofEntries [("x", some dims), ("y", some dims)]
    let choices : KernelOptions.Choices :=
      { workgroupSize := some ⟨7, 1, 1⟩, layout := some { elementType := "vec3<f32>" } }
    let result := (Session.build {} (node.compile (fun template => template)
      (Registry.builtin lowerMap) shapes choices.complete)).result
    [6361, 69431, 20394401].prod = 2 ^ 53 - 1 ∧
      ∃ compiled, result = .ok compiled ∧ compiled.dispatch = ⟨428914250225762, 1, 1⟩ := by
  intro node dims shapes choices result
  have hmap : ∀ template, (Registry.builtin lowerMap).find? node.op = some template →
      template = lowerMap := by
    intro template h
    have hfind : (Registry.builtin lowerMap).find? node.op = some lowerMap := rfl
    rw [hfind, Option.some.injEq] at h
    exact h.symm
  have hnatural : List.Forall₂ Number.IsNat dims [6361, 69431, 20394401] :=
    .cons (Number.isNat_ofInt 6361) (.cons (Number.isNat_ofInt 69431)
      (.cons (Number.isNat_ofInt 20394401) .nil))
  have hproducts : ∀ front, front <+: [6361, 69431, 20394401] → front.prod ≤ 2 ^ 53 - 1 := by
    intro front hfront
    have hinits : ∀ front ∈ [6361, 69431, 20394401].inits, front.prod ≤ 2 ^ 53 - 1 := by decide
    exact hinits front ((List.mem_inits front _).mpr hfront)
  have hshape : shapes "y" = some dims := rfl
  have hvectors : vectorLanes? choices.complete.layout.elementType = some 3 := by decide
  have hsize : choices.complete.workgroupSize.x = Number.ofInt (7 : ℕ) := rfl
  obtain ⟨hcompiles, hdispatch, -⟩ := dispatch_compile_exact {} hmap rfl hshape hnatural hproducts
    hvectors hsize (by decide) (by decide)
  have hcount : ⌈(⌊(([6361, 69431, 20394401].prod : ℕ) : ℚ) / (3 : ℕ)⌋₊ : ℚ) / (7 : ℕ)⌉₊ =
      428914250225762 := by
    rw [Rat.natFloor_natCast_div_natCast]
    norm_num [Nat.ceil_eq_iff]
  obtain ⟨compiled, hcompiled⟩ := hcompiles.mpr (by decide +kernel)
  refine ⟨by decide, compiled, hcompiled, ?_⟩
  have hexact := (hdispatch compiled hcompiled).2 (by decide)
  rw [hcount] at hexact
  exact hexact

end Elementwise
