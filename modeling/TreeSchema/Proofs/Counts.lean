import Mathlib.Algebra.Order.Field.Rat
import TreeSchema.Proofs.Findings
import TreeSchema.Proofs.Spelling

/-!
# Limits on sizes

A limit on the length of a string or on the size of an array or an object is a
whole number, however that is spelled. It is kept exactly below `2 ^ 64`
(`size_limits`); from there on a least size is lost (`limit_dropped`).
-/

namespace TreeSchema

-- Powers are the core ones, whatever else is in scope.
attribute [local instance (high)] instPowNat

namespace Number

-- -----------------------------------------------------------------------------
-- Whole numbers

def value : Number → Rat
  | .integer i => i
  | .double d => d.units / Binary64.unitsPerOne

theorem value_integer {i : Int} {whole : Nat} : (integer i).value = whole ↔ i = whole := by
  rw [value]
  exact_mod_cast Iff.rfl

theorem value_double {d : Binary64} {whole : Nat} :
    (double d).value = whole ↔ d.units = whole * Binary64.unitsPerOne := by
  have hunit : (Binary64.unitsPerOne : Rat) ≠ 0 := by
    exact_mod_cast Binary64.unitsPerOne_pos.ne'
  rw [value, div_eq_iff hunit]
  exact_mod_cast Iff.rfl

theorem floorMagnitude_of_units {d : Binary64} {whole : Nat}
    (h : d.units = whole * Binary64.unitsPerOne) : d.floorMagnitude = whole := by
  rw [Binary64.floorMagnitude, Binary64.magnitude_eq_mul h, Int.natAbs_natCast,
    Nat.mul_div_cancel _ Binary64.unitsPerOne_pos]

theorem units_of_isWhole {d : Binary64} (hpos : 0 ≤ d.units) (hwhole : d.isWhole = true) :
    d.units = d.floorMagnitude * Binary64.unitsPerOne := by
  have hmagnitude : d.floorMagnitude * Binary64.unitsPerOne = d.magnitude :=
    Nat.div_mul_cancel (Nat.dvd_of_mod_eq_zero (by simpa [Binary64.isWhole] using hwhole))
  have hunits : (d.magnitude : Int) = d.units := by
    rw [Binary64.magnitude_eq_natAbs]
    exact Int.natAbs_of_nonneg hpos
  rw [← hunits, ← hmagnitude, Int.natCast_mul]

theorem asCount_double {d : Binary64} {count : Nat} :
    (double d).asCount = some count ↔ ∃ whole : Nat, (double d).value = whole ∧
      whole ≤ 2 ^ (64 : Nat) ∧ count = min whole greatestCount := by
  simp only [value_double, asCount]
  constructor
  · intro h
    split at h
    · rename_i hd
      exact ⟨d.floorMagnitude, units_of_isWhole hd.1 hd.2.1, hd.2.2, (Option.some.inj h).symm⟩
    · simp at h
  · rintro ⟨whole, hunits, hle, rfl⟩
    have hfloor := floorMagnitude_of_units hunits
    have hpos : 0 ≤ d.units := by
      rw [hunits]
      exact Int.mul_nonneg (Int.natCast_nonneg _) (Int.natCast_nonneg _)
    rw [if_pos ⟨hpos, isWhole_of_units hunits, hfloor ▸ hle⟩, hfloor]

/-- What a number counts is its own value, save that `2 ^ 64` counts one less and
that nothing above counts. -/
theorem asCount_eq_some {n : Number} (hn : n.InRange) {count : Nat} :
    n.asCount = some count ↔ ∃ whole : Nat, n.value = whole ∧
      (whole < 2 ^ (64 : Nat) ∧ count = whole ∨
        whole = 2 ^ (64 : Nat) ∧ count = greatestCount) := by
  cases n with
  | integer i =>
    obtain ⟨-, hgreatest⟩ := hn
    simp only [greatestInteger] at hgreatest
    simp only [value_integer, asCount]
    constructor
    · intro h
      split at h
      · obtain rfl := Option.some.inj h
        exact ⟨i.toNat, by omega, .inl ⟨by omega, rfl⟩⟩
      · simp at h
    · rintro ⟨whole, rfl, ⟨-, rfl⟩ | ⟨rfl, -⟩⟩
      · simp
      · omega
  | double d =>
    rw [asCount_double]
    refine exists_congr fun whole => and_congr_right fun _ => ?_
    simp only [greatestCount]
    omega

end Number

def Members.States (node : Members) (keyword : String) (whole : Nat) : Prop :=
  ∃ n, node.number? keyword = some n ∧ n.value = whole

theorem Members.count?_eq_some {node : Members} {keyword : String}
    (hnode : ∀ n, node.number? keyword = some n → n.InRange) (count : Nat) :
    node.count? keyword = some count ↔ ∃ whole, node.States keyword whole ∧
      (whole < 2 ^ (64 : Nat) ∧ count = whole ∨
        whole = 2 ^ (64 : Nat) ∧ count = Number.greatestCount) := by
  rw [Members.count?, Option.bind_eq_some_iff]
  constructor
  · rintro ⟨n, hn, hcount⟩
    obtain ⟨whole, hwhole, hcase⟩ := (Number.asCount_eq_some (hnode n hn)).mp hcount
    exact ⟨whole, ⟨n, hn, hwhole⟩, hcase⟩
  · rintro ⟨whole, ⟨n, hn, hwhole⟩, hcase⟩
    exact ⟨n, hn, (Number.asCount_eq_some (hnode n hn)).mpr ⟨whole, hwhole, hcase⟩⟩

namespace Validation

-- -----------------------------------------------------------------------------
-- Sizes

inductive Measure where
  | characters | items | members

namespace Measure

def least : Measure → String
  | .characters => "minLength"
  | .items => "minItems"
  | .members => "minProperties"

def greatest : Measure → String
  | .characters => "maxLength"
  | .items => "maxItems"
  | .members => "maxProperties"

def tooSmall : Measure → Nat → Nat → Fault
  | .characters => .stringTooShort
  | .items => .tooFewItems
  | .members => .tooFewProperties

def tooGreat : Measure → Nat → Nat → Fault
  | .characters => .stringTooLong
  | .items => .tooManyItems
  | .members => .tooManyProperties

end Measure

inductive Sized : Value → Measure → Nat → Prop
  | string (s : String) : Sized (.string s) .characters s.length
  | array (items : List Value) : Sized (.array items) .items items.length
  | object (members : Members) : Sized (.object members) .members members.length

/-- The faults that a node finds in a value by its size; for a string these come
with those of `pattern`. -/
def sizeFaults (node : Members) : Value → List Fault
  | .string s => stringFaults s node
  | .array items => itemCountFaults items node
  | .object members => memberCountFaults members node
  | _ => []

variable {node : Members} {value : Value} {measure : Measure} {size : Nat}

def limitFaults (measure : Measure) (size : Nat) (node : Members) : List Fault :=
  (node.count? measure.least).elim [] (fun limit =>
    Fault.when (size < limit) (measure.tooSmall size limit)) ++
  (node.count? measure.greatest).elim [] (fun limit =>
    Fault.when (limit < size) (measure.tooGreat size limit))

theorem tooSmall_mem_limitFaults {limit : Nat} :
    measure.tooSmall size limit ∈ limitFaults measure size node ↔
      node.count? measure.least = some limit ∧ size < limit := by
  cases measure <;>
    simp [limitFaults, mem_elim, mem_when, Measure.tooSmall, Measure.tooGreat]

theorem tooGreat_mem_limitFaults {limit : Nat} :
    measure.tooGreat size limit ∈ limitFaults measure size node ↔
      node.count? measure.greatest = some limit ∧ limit < size := by
  cases measure <;>
    simp [limitFaults, mem_elim, mem_when, Measure.tooSmall, Measure.tooGreat]

theorem mem_stringFaults_iff {s : String} {fault : Fault}
    (hpattern : ∀ source, fault ≠ .patternMismatch source ∧ fault ≠ .invalidPattern source) :
    fault ∈ stringFaults s node ↔ fault ∈ limitFaults .characters s.length node := by
  rw [stringFaults, List.mem_append]
  refine or_iff_left fun hmem => ?_
  obtain ⟨source, -, hmem⟩ := mem_elim.mp hmem
  cases hof : Pattern.ofString? source <;> simp_all [mem_when]

theorem tooSmall_mem_sizeFaults (h : Sized value measure size) {limit : Nat} :
    measure.tooSmall size limit ∈ sizeFaults node value ↔
      node.count? measure.least = some limit ∧ size < limit := by
  rw [← tooSmall_mem_limitFaults]
  cases h with
  | string s => exact mem_stringFaults_iff fun source => ⟨nofun, nofun⟩
  | array items => rfl
  | object members => rfl

theorem tooGreat_mem_sizeFaults (h : Sized value measure size) {limit : Nat} :
    measure.tooGreat size limit ∈ sizeFaults node value ↔
      node.count? measure.greatest = some limit ∧ limit < size := by
  rw [← tooGreat_mem_limitFaults]
  cases h with
  | string s => exact mem_stringFaults_iff fun source => ⟨nofun, nofun⟩
  | array items => rfl
  | object members => rfl

/-- A size below `2 ^ 64` is reported as too great exactly when it is above the
number under the keyword, and as too small exactly when it is below that number
and the number is below `2 ^ 64`. A keyword that holds anything but a
non-negative whole number reports nothing, and so does a number above `2 ^ 64`;
`2 ^ 64` itself is taken for one less. -/
theorem size_limits (h : Sized value measure size) (hsize : size < 2 ^ (64 : Nat))
    (hnode : ∀ keyword n, node.number? keyword = some n → n.InRange) :
    ((∃ limit, measure.tooSmall size limit ∈ sizeFaults node value) ↔
      ∃ whole, node.States measure.least whole ∧
        (whole < 2 ^ (64 : Nat) ∧ size < whole ∨
          whole = 2 ^ (64 : Nat) ∧ size < Number.greatestCount)) ∧
    ((∃ limit, measure.tooGreat size limit ∈ sizeFaults node value) ↔
      ∃ whole, node.States measure.greatest whole ∧ whole < size) ∧
    ∀ keyword count, node.count? keyword = some count ↔
      ∃ whole, node.States keyword whole ∧
        (whole < 2 ^ (64 : Nat) ∧ count = whole ∨
          whole = 2 ^ (64 : Nat) ∧ count = Number.greatestCount) := by
  have hcount (keyword : String) := Members.count?_eq_some (hnode keyword)
  refine ⟨?_, ?_, hcount⟩
  · simp only [tooSmall_mem_sizeFaults h, hcount]
    constructor
    · rintro ⟨limit, ⟨whole, hstates, ⟨hwhole, rfl⟩ | ⟨hwhole, rfl⟩⟩, hlt⟩
      · exact ⟨_, hstates, .inl ⟨hwhole, hlt⟩⟩
      · exact ⟨whole, hstates, .inr ⟨hwhole, hlt⟩⟩
    · rintro ⟨whole, hstates, ⟨hwhole, hlt⟩ | ⟨hwhole, hlt⟩⟩
      · exact ⟨whole, ⟨whole, hstates, .inl ⟨hwhole, rfl⟩⟩, hlt⟩
      · exact ⟨Number.greatestCount, ⟨whole, hstates, .inr ⟨hwhole, rfl⟩⟩, hlt⟩
  · simp only [tooGreat_mem_sizeFaults h, hcount]
    constructor
    · rintro ⟨limit, ⟨whole, hstates, ⟨-, rfl⟩ | ⟨hwhole, rfl⟩⟩, hlt⟩
      · exact ⟨_, hstates, hlt⟩
      -- No size is above the greatest count.
      · simp only [Number.greatestCount] at hlt
        omega
    · rintro ⟨whole, hstates, hlt⟩
      exact ⟨whole, ⟨whole, hstates, .inl ⟨by omega, rfl⟩⟩, hlt⟩

theorem size_limits_spelled :
    let five : Number := .double ⟨false, 5629499534213120, 1024, by decide⟩
    let node : Members := [("maxLength", .ofInt 2), ("minLength", .number five)]
    Sized (.string "abc") .characters 3 ∧ 3 < 2 ^ (64 : Nat) ∧
      (∀ keyword n, node.number? keyword = some n → n.InRange) ∧
      node.States "minLength" 5 ∧ node.States "maxLength" 2 ∧
      (∃ limit, .stringTooShort 3 limit ∈ sizeFaults node (.string "abc")) ∧
      (∃ limit, .stringTooLong 3 limit ∈ sizeFaults node (.string "abc")) ∧
      node.count? "minLength" = some 5 := by
  intro five node
  have hsized : Sized (.string "abc") .characters 3 := .string "abc"
  have hnode : ∀ keyword n, node.number? keyword = some n → n.InRange := by
    intro keyword n hn
    obtain ⟨held, hheld, hnumber⟩ := Option.bind_eq_some_iff.mp hn
    have hmem := mem_of_lookup hheld
    simp only [node, List.mem_cons, List.not_mem_nil, or_false, Prod.mk.injEq] at hmem
    obtain ⟨-, rfl⟩ | ⟨-, rfl⟩ := hmem
    · obtain rfl := Option.some.inj hnumber
      exact ⟨by decide, by decide⟩
    · obtain rfl := Option.some.inj hnumber
      trivial
  have hleast : node.States "minLength" 5 :=
    ⟨five, rfl, Number.value_double.mpr (by decide +kernel)⟩
  have hgreatest : node.States "maxLength" 2 := ⟨.integer 2, rfl, Number.value_integer.mpr rfl⟩
  obtain ⟨hsmall, hgreat, hcount⟩ := size_limits hsized (by decide) hnode
  exact ⟨hsized, by decide, hnode, hleast, hgreatest,
    hsmall.mpr ⟨5, hleast, .inl ⟨by decide, by decide⟩⟩, hgreat.mpr ⟨2, hgreatest, by decide⟩,
    (hcount "minLength" 5).mpr ⟨5, hleast, .inl ⟨by decide, rfl⟩⟩⟩

/-- A least length of `10 ^ 20` accepts a string of three, and one of `2 ^ 64`
is taken for another number. -/
theorem limit_dropped :
    let above : Number := .double ⟨false, 6103515625000000, 1088, by decide⟩
    let first : Number := .double ⟨false, 4503599627370496, 1086, by decide⟩
    let node : Members := [("minLength", .number above)]
    node.States "minLength" 100000000000000000000 ∧
      sizeFaults node (.string "abc") = [] ∧
      (Registry.empty.validate (.string "abc") (.object [("not", .object node)])).isValid = false ∧
      first.value = (2 ^ (64 : Nat) : Nat) ∧
      Members.count? [("minLength", .number first)] "minLength" = some (2 ^ (64 : Nat) - 1) := by
  intro above first node
  exact ⟨⟨above, rfl, Number.value_double.mpr (by decide +kernel)⟩, by decide +kernel,
    by decide +kernel, Number.value_double.mpr (by decide +kernel), by decide +kernel⟩

end Validation

end TreeSchema
