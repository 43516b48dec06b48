import Mathlib.Data.Option.Basic
import TreeSchema.Proofs.Sources
import TreeSchema.Proofs.Subschema
import TreeSchema.Proofs.WellFormed

/-!
# What is read is well formed

Every value that is read from JSON or YAML text is well formed, and so are the
documents that a run registers.
-/

namespace TreeSchema

-- Powers are the core ones, whatever else is in scope.
attribute [local instance (high)] instPowNat

-- -----------------------------------------------------------------------------
-- JSON

namespace Json

open Value (WellFormed)

theorem Numeral.inRange {numeral : Numeral} {n : Number} (h : numeral.number? = some n) :
    n.InRange := by
  unfold number? at h
  split at h
  · rename_i i hi
    obtain rfl := Option.some.inj h
    simp only [integer?, Option.bind_eq_some_iff, Option.bind_eq_bind, Option.guard_eq_some',
      Option.pure_def, Option.some.injEq, Bool.and_eq_true, decide_eq_true_eq] at hi
    obtain ⟨_, -, magnitude, -, _, -, _, hrange, rfl⟩ := hi
    exact hrange
  · obtain ⟨d, -, rfl⟩ := Option.map_eq_some_iff.mp h
    trivial

structure Sound (fuel : Nat) : Prop where
  value : ∀ {depth text value rest}, readValue fuel depth text = some (value, rest) →
    WellFormed value
  items : ∀ {depth text items rest}, readItems fuel depth text = some (items, rest) →
    ∀ item ∈ items, WellFormed item
  members : ∀ {depth text pairs rest}, readMembers fuel depth text = some (pairs, rest) →
    ∀ key child, (key, child) ∈ pairs → WellFormed child

section Sound

variable {fuel depth : Nat} {text rest : List Char}

theorem wellFormed_of_map {α : Type} {part : Option (α × List Char)}
    {build : α × List Char → Value × List Char} {value : Value}
    (hbuild : ∀ a rest, part = some (a, rest) → WellFormed (build (a, rest)).1)
    (h : part.map build = some (value, rest)) : value.WellFormed := by
  obtain ⟨⟨a, rest⟩, hpart, heq⟩ := Option.map_eq_some_iff.mp h
  have := hbuild a rest hpart
  rwa [heq] at this

theorem wellFormed_of_expect? {word : List Char} {leaf value : Value} (hleaf : leaf.WellFormed)
    (h : (expect? word text).map (fun rest => (leaf, rest)) = some (value, rest)) :
    value.WellFormed := by
  obtain ⟨_, -, heq⟩ := Option.map_eq_some_iff.mp h
  obtain ⟨rfl, rfl⟩ := Prod.mk.inj heq
  exact hleaf

theorem Sound.readValue (hsound : Sound fuel) {value : Value}
    (h : readValue (fuel + 1) depth text = some (value, rest)) : value.WellFormed := by
  unfold Json.readValue at h
  split at h
  -- An opening bracket, then an opening brace, past the depth.
  · cases h
  · cases h
  · split at h
    · cases h
      exact .ofItems fun _ hmem => absurd hmem List.not_mem_nil
    · exact wellFormed_of_map (fun _ _ hread => .ofItems (hsound.items hread)) h
  · split at h
    · cases h
      exact .ofMembers .nil fun _ _ hmem => absurd hmem List.not_mem_nil
    · exact wellFormed_of_map (fun _ _ hread => .ofPairs (hsound.members hread)) h
  · exact wellFormed_of_map (fun _ _ _ => .ofLeaf rfl rfl rfl) h
  · exact wellFormed_of_expect? (.ofLeaf rfl rfl rfl) h
  · exact wellFormed_of_expect? (.ofLeaf rfl rfl rfl) h
  · exact wellFormed_of_expect? (.ofLeaf rfl rfl rfl) h
  · simp only [Option.bind_eq_bind, Option.bind_eq_some_iff, Option.pure_def, Option.some.injEq] at h
    obtain ⟨⟨numeral, rest⟩, -, n, hn, heq⟩ := h
    obtain ⟨rfl, rfl⟩ := Prod.mk.inj heq
    exact .ofNumber (Numeral.inRange hn)

theorem Sound.readItems (hsound : Sound fuel) {items : List Value}
    (h : readItems (fuel + 1) depth text = some (items, rest)) : ∀ item ∈ items, item.WellFormed := by
  unfold Json.readItems at h
  obtain ⟨⟨first, rest⟩, hfirst, h⟩ := Option.bind_eq_some_iff.mp h
  dsimp only at h
  split at h
  · cases h
    exact List.forall_mem_singleton.mpr (hsound.value hfirst)
  · obtain ⟨⟨others, rest⟩, hothers, heq⟩ := Option.map_eq_some_iff.mp h
    obtain ⟨rfl, rfl⟩ := Prod.mk.inj heq
    exact List.forall_mem_cons.mpr ⟨hsound.value hfirst, hsound.items hothers⟩
  · cases h

theorem Sound.readMembers (hsound : Sound fuel) {pairs : List (String × Value)}
    (h : readMembers (fuel + 1) depth text = some (pairs, rest)) :
    ∀ key child, (key, child) ∈ pairs → child.WellFormed := by
  unfold Json.readMembers at h
  split at h
  · obtain ⟨⟨key, rest⟩, -, h⟩ := Option.bind_eq_some_iff.mp h
    dsimp only at h
    split at h
    · obtain ⟨⟨child, rest⟩, hchild, h⟩ := Option.bind_eq_some_iff.mp h
      have hfirst : ∀ name value, (name, value) = (key, child) → WellFormed value := by
        rintro name value heq
        obtain ⟨-, rfl⟩ := Prod.mk.inj heq
        exact hsound.value hchild
      dsimp only at h
      split at h
      · cases h
        exact fun name value hmem => hfirst name value (List.mem_singleton.mp hmem)
      · obtain ⟨⟨others, rest⟩, hothers, heq⟩ := Option.map_eq_some_iff.mp h
        obtain ⟨rfl, rfl⟩ := Prod.mk.inj heq
        intro name value hmem
        exact (List.mem_cons.mp hmem).elim (hfirst name value) (hsound.members hothers name value)
      · cases h
    · cases h
  · cases h

end Sound

theorem sound (fuel : Nat) : Sound fuel := by
  induction fuel with
  | zero =>
    constructor <;> intro _ _ _ _ h <;> cases h
  | succ fuel ih => exact ⟨ih.readValue, ih.readItems, ih.readMembers⟩

theorem read_wellFormed {depth : Nat} {text : String} {value : Value}
    (h : read depth text = some value) : value.WellFormed := by
  obtain ⟨⟨other, rest⟩, hread, h⟩ := Option.bind_eq_some_iff.mp h
  obtain ⟨_, -, h⟩ := Option.bind_eq_some_iff.mp h
  obtain rfl := Option.some.inj h
  exact (sound _).value hread

end Json

-- -----------------------------------------------------------------------------
-- YAML

namespace Yaml

namespace Data

inductive Leaf : Data → Prop
  | null : Leaf .null
  | bool {b : Bool} : Leaf (.bool b)
  | number {n : Number} : n.InRange → Leaf (.number (.finite n))
  | infinite {negative : Bool} : Leaf (.number (.infinite negative))
  | undefined : Leaf (.number .undefined)
  | string {s : String} : Leaf (.string s)

/-- Its finite numbers, apart from those in keys, are in range. -/
inductive Held : Data → Prop
  | null : Held .null
  | bool {b : Bool} : Held (.bool b)
  | number {n : Number} : n.InRange → Held (.number (.finite n))
  | infinite {negative : Bool} : Held (.number (.infinite negative))
  | undefined : Held (.number .undefined)
  | string {s : String} : Held (.string s)
  | sequence {items : List Data} : (∀ item ∈ items, Held item) → Held (.sequence items)
  | mapping {entries : List (Data × Data)} :
      (∀ key child, (key, child) ∈ entries → Held child) → Held (.mapping entries)
  | tagged {tag : String} {content : Data} : Held content → Held (.tagged tag content)

theorem Leaf.held {data : Data} (h : Leaf data) : Held data := by
  cases h with
  | null => exact .null
  | bool => exact .bool
  | number h => exact .number h
  | infinite => exact .infinite
  | undefined => exact .undefined
  | string => exact .string

end Data

open Data (Leaf Held)

theorem double?_leaf {text : List Char} {n : Numeric} (h : double? text = some n) :
    Leaf (.number n) := by
  unfold double? at h
  split at h
  all_goals first
    | (obtain rfl := Option.some.inj h; exact .infinite)
    | (obtain rfl := Option.some.inj h; exact .undefined)
    | skip
  obtain ⟨d, -, rfl⟩ := Option.map_eq_some_iff.mp h
  exact .number trivial

theorem inRange_of_rangeOf {i : Int} (h : rangeOf i = .held) : (Number.integer i).InRange := by
  unfold rangeOf at h
  split at h
  · assumption
  · split at h <;> cases h

theorem plainData?_leaf {text : String} {data : Data} (h : plainData? text = some data) :
    Leaf data := by
  unfold plainData? at h
  split at h
  · cases h
    exact .null
  · split at h
    · cases h
      exact .bool
    · dsimp only at h
      split at h
      · rename_i i heq
        obtain ⟨j, -, hj⟩ := Option.map_eq_some_iff.mp heq
        obtain ⟨rfl, hheld⟩ := Prod.mk.inj hj
        cases h
        exact .number (inRange_of_rangeOf hheld)
      · cases h
      · split at h
        · cases h
          exact .string
        · obtain rfl := Option.some.inj h
          cases hdouble : double? text.toList with
          | none => exact .string
          | some n => exact double?_leaf hdouble

theorem scalarData?_leaf {tag : Option String} {text : String} {style : Style} {data : Data}
    (h : scalarData? tag text style = some data) : Leaf data := by
  have huntagged (h : (if style = .plain then plainData? text else some (.string text)) = some data) :
      Leaf data := by
    split at h
    · exact plainData?_leaf h
    · cases h
      exact .string
  unfold scalarData? at h
  dsimp only at h
  split at h
  · exact huntagged h
  · split at h
    · obtain ⟨b, -, rfl⟩ := Option.map_eq_some_iff.mp h
      exact .bool
    · split at h
      · obtain ⟨i, -, h⟩ := Option.bind_eq_some_iff.mp h
        split at h
        · cases h
          exact .number (inRange_of_rangeOf ‹_›)
        · cases h
      · split at h
        · obtain ⟨n, hn, rfl⟩ := Option.map_eq_some_iff.mp h
          exact double?_leaf hn
        · split at h
          · split at h
            · cases h
              exact .null
            · cases h
          · cases h
            exact .string

def Yields {α : Type} (m : Follow α) (P : α → Prop) : Prop :=
  ∀ count a count', m.run count = some (a, count') → P a

section Yields

variable {α β : Type} {m : Follow α} {P : α → Prop} {Q : β → Prop} {f : α → Follow β}

theorem Yields.trivial : Yields m fun _ => True := fun _ _ _ _ => .intro

theorem Yields.pure {a : α} (h : P a) : Yields (pure a) P := by
  intro _ _ _ hrun
  obtain ⟨rfl, rfl⟩ := Prod.mk.inj (Option.some.inj hrun)
  exact h

theorem Yields.failure : Yields failure P := by
  intro count a count' hrun
  cases hrun

theorem Yields.ofGuard {p : Prop} [Decidable p] : Yields (guard p) fun _ => p := by
  by_cases h : p
  · simpa only [guard, if_pos h] using Yields.pure h
  · simpa only [guard, if_neg h] using Yields.failure

theorem Yields.bind (hm : Yields m P) (hf : ∀ a, P a → Yields (f a) Q) : Yields (m >>= f) Q := by
  intro count b count' hrun
  rw [StateT.run_bind] at hrun
  obtain ⟨⟨a, count''⟩, ha, hb⟩ := Option.bind_eq_some_iff.mp hrun
  exact hf a (hm _ _ _ ha) _ _ _ hb

end Yields

/-- What holds of scalars, and carries over from the parts of a value to the
value. The keys of a mapping are known to differ. -/
structure Inherited (P : Data → Prop) : Prop where
  leaf : ∀ {data}, Leaf data → P data
  sequence : ∀ {items}, (∀ item ∈ items, P item) → P (.sequence items)
  mapping : ∀ {entries : List (Data × Data)},
    entries.Pairwise (fun earlier later => earlier.1.sameKey later.1 = false) →
    (∀ key child, (key, child) ∈ entries → P child) → P (.mapping entries)
  tagged : ∀ {tag content}, P content → P (.tagged tag content)

section Reading

variable {P : Data → Prop} {document : Document} {read : Node Nat → Follow Data}

theorem mapM_yields (hread : ∀ node, Yields (read node) P) (nodes : List (Node Nat)) :
    Yields (nodes.mapM read) fun items => ∀ item ∈ items, P item := by
  induction nodes with
  | nil =>
    rw [List.mapM_nil]
    exact .pure fun _ hmem => absurd hmem List.not_mem_nil
  | cons node nodes ih =>
    rw [List.mapM_cons]
    refine .bind (hread node) fun first hfirst => .bind ih fun rest hrest => .pure ?_
    exact List.forall_mem_cons.mpr ⟨hfirst, hrest⟩

theorem entriesOf_yields (hread : ∀ node, Yields (read node) P) {entries : List (Data × Data)}
    (nodes : List (Node Nat × Node Nat))
    (hkeys : entries.Pairwise fun earlier later => earlier.1.sameKey later.1 = false)
    (hentries : ∀ key child, (key, child) ∈ entries → P child) :
    Yields (Document.entriesOf read entries nodes) fun entries' =>
      entries'.Pairwise (fun earlier later => earlier.1.sameKey later.1 = false) ∧
        ∀ key child, (key, child) ∈ entries' → P child := by
  induction nodes generalizing entries with
  | nil => exact .pure ⟨hkeys, hentries⟩
  | cons node nodes ih =>
    obtain ⟨keyNode, childNode⟩ := node
    rw [Document.entriesOf]
    refine .bind .trivial fun key _ => .bind .ofGuard fun _ hfresh =>
      .bind (hread childNode) fun child hchild => ih ?_ fun name value hmem => ?_
    · refine List.pairwise_append.mpr ⟨hkeys, List.pairwise_singleton .., fun entry hmem other hother => ?_⟩
      obtain rfl := List.mem_singleton.mp hother
      simp only [Bool.not_eq_true', List.any_eq_false] at hfresh
      exact Bool.eq_false_iff.mpr (hfresh entry hmem)
    · rcases List.mem_append.mp hmem with hmem | hmem
      · exact hentries name value hmem
      · obtain ⟨-, rfl⟩ := Prod.mk.inj (List.mem_singleton.mp hmem)
        exact hchild

variable (hP : Inherited P)

include hP

theorem withTag_inherited {tag : Option String} {content : Data} (h : P content) :
    P (Document.withTag tag content) := by
  unfold Document.withTag
  split
  · exact hP.tagged h
  · exact h

theorem dataWith_yields (hread : ∀ node, Yields (read node) P) (node : Node Nat) :
    Yields (document.dataWith read node) P := by
  unfold Document.dataWith
  refine .bind .trivial fun target _ => ?_
  cases target with
  | scalar properties text style =>
    dsimp only
    split
    · cases hdata : scalarData? none text style with
      | none => exact .failure
      | some content => exact .pure (hP.tagged (hP.leaf (scalarData?_leaf hdata)))
    · cases hdata : scalarData? properties.tag text style with
      | none => exact .failure
      | some content => exact .pure (hP.leaf (scalarData?_leaf hdata))
  | sequence properties items =>
    refine .bind (mapM_yields hread items) fun _ hitems => .pure ?_
    exact withTag_inherited hP (hP.sequence hitems)
  | mapping properties entries =>
    refine .bind (entriesOf_yields hread entries .nil fun _ _ hmem => absurd hmem List.not_mem_nil) ?_
    exact fun _ ⟨hkeys, hentries⟩ => .pure (withTag_inherited hP (hP.mapping hkeys hentries))
  | _ => exact .failure

theorem dataOf_yields (document : Document) (depth : Nat) (node : Node Nat) :
    Yields (document.dataOf depth node) P := by
  induction depth generalizing node with
  | zero =>
    unfold Document.dataOf
    refine .bind .trivial fun target _ => ?_
    cases target with
    | scalar => exact dataWith_yields hP (fun _ => .failure) _
    | _ => exact .failure
  | succ depth ih => exact dataWith_yields hP ih node

theorem ofText?_inherited {text : String} {data : Data} (h : Data.ofText? text = some data) :
    P data := by
  obtain ⟨document, -, h⟩ := Option.bind_eq_some_iff.mp h
  obtain ⟨⟨other, count⟩, hrun, rfl⟩ := Option.map_eq_some_iff.mp h
  exact dataOf_yields hP document _ _ _ _ _ hrun

end Reading

theorem held_inherited : Inherited Held where
  leaf := Leaf.held
  sequence := .sequence
  mapping _ := .mapping
  tagged := .tagged

theorem ofText?_held {text : String} {data : Data} (h : Data.ofText? text = some data) :
    Held data :=
  ofText?_inherited held_inherited h

end Yaml

-- -----------------------------------------------------------------------------
-- Documents

namespace Value

theorem numberOfYaml_finite {n : Number} (h : n.InRange) : numberOfYaml (.finite n) = .ok n := by
  cases n with
  | double d => rfl
  | integer i =>
    obtain ⟨hleast, hgreatest⟩ := h
    simp only [Number.leastInteger, Number.greatestInteger] at hleast hgreatest
    simp only [numberOfYaml, Yaml.Numeric.asSigned?, Yaml.Numeric.asUnsigned?]
    by_cases hsigned : i < 2 ^ (63 : Nat)
    · rw [if_pos ⟨hleast, hsigned⟩]
      rfl
    · rw [if_neg fun hword => hsigned hword.2, if_pos (by omega)]
      rfl

theorem itemsOfYaml_eq_ok {items : List Yaml.Data} {values : List Value} :
    itemsOfYaml items = .ok values ↔
      List.Forall₂ (fun item value => ofYaml item = .ok value) items values := by
  induction items generalizing values with
  | nil => simp [itemsOfYaml, eq_comm]
  | cons item rest ih =>
    simp only [itemsOfYaml, bind_eq_ok, ih, pure, Except.pure, Except.ok.injEq,
      List.forall₂_cons_left_iff]
    constructor
    · rintro ⟨value, hvalue, others, hothers, rfl⟩
      exact ⟨value, others, hvalue, hothers, rfl⟩
    · rintro ⟨value, others, hvalue, hothers, rfl⟩
      exact ⟨value, hvalue, others, hothers, rfl⟩

def Converts (entry : Yaml.Data × Yaml.Data) (pair : String × Value) : Prop :=
  keyOfYaml entry.1 = .ok pair.1 ∧ ofYaml entry.2 = .ok pair.2

theorem pairsOfYaml_eq_ok {entries : List (Yaml.Data × Yaml.Data)} {pairs : List (String × Value)} :
    pairsOfYaml entries = .ok pairs ↔ List.Forall₂ Converts entries pairs := by
  induction entries generalizing pairs with
  | nil => simp [pairsOfYaml, eq_comm]
  | cons entry rest ih =>
    obtain ⟨key, child⟩ := entry
    simp only [pairsOfYaml, bind_eq_ok, ih, pure, Except.pure, Except.ok.injEq,
      List.forall₂_cons_left_iff]
    constructor
    · rintro ⟨name, hname, value, hvalue, others, hothers, rfl⟩
      exact ⟨(name, value), others, ⟨hname, hvalue⟩, hothers, rfl⟩
    · rintro ⟨⟨name, value⟩, others, ⟨hname, hvalue⟩, hothers, rfl⟩
      exact ⟨name, hname, value, hvalue, others, hothers, rfl⟩

theorem ofYaml_wellFormed {data : Yaml.Data} (hdata : data.Held) {value : Value}
    (h : ofYaml data = .ok value) : value.WellFormed := by
  induction hdata generalizing value with
  | null =>
    obtain rfl := Except.ok.inj h
    exact .ofLeaf rfl rfl rfl
  | @bool b =>
    obtain rfl := Except.ok.inj h
    exact .ofLeaf rfl rfl rfl
  | number hrange =>
    rw [ofYaml, numberOfYaml_finite hrange] at h
    obtain rfl := Except.ok.inj h
    exact .ofNumber hrange
  | infinite => cases h
  | undefined => cases h
  | @string s =>
    obtain rfl := Except.ok.inj h
    exact .ofLeaf rfl rfl rfl
  | sequence _ ih =>
    rw [ofYaml] at h
    obtain ⟨items, hitems, rfl⟩ := map_eq_ok.mp h
    refine .ofItems fun value hmem => ?_
    obtain ⟨item, hitem, hvalue⟩ := forall₂_exists_mem (itemsOfYaml_eq_ok.mp hitems).flip hmem
    exact ih item hitem hvalue
  | mapping _ ih =>
    rw [ofYaml] at h
    obtain ⟨pairs, hpairs, rfl⟩ := map_eq_ok.mp h
    refine .ofPairs fun name value hmem => ?_
    obtain ⟨⟨key, child⟩, hentry, -, hvalue⟩ := forall₂_exists_mem (pairsOfYaml_eq_ok.mp hpairs).flip hmem
    exact ih key child hentry hvalue
  | tagged _ ih =>
    rw [ofYaml] at h
    exact ih h

end Value

theorem parseDocument_wellFormed {format : Format} {text : String} {value : Value}
    (h : parseDocument format text = .ok value) : value.WellFormed := by
  cases format with
  | json =>
    cases hread : Json.read greatestJsonDepth text with
    | none => simp [parseDocument, hread] at h
    | some other =>
      obtain rfl : other = value := by simpa [parseDocument, hread] using h
      exact Json.read_wellFormed hread
  | yaml =>
    cases hdata : Yaml.Data.ofText? text with
    | none => simp [parseDocument, hdata] at h
    | some data =>
      simp only [parseDocument, hdata] at h
      exact Value.ofYaml_wellFormed (Yaml.ofText?_held hdata) h

theorem FileSystem.loadDocument_wellFormed {files : FileSystem} {path : FilePath} {value : Value}
    (h : files.loadDocument path = .ok value) : value.WellFormed := by
  obtain ⟨text, -, h⟩ := bind_eq_ok.mp h
  cases hparse : parseDocument ((Format.ofPath? path).getD .json) text with
  | error => cases hparse ▸ h
  | ok other =>
    obtain rfl : other = value := Except.ok.inj (hparse ▸ h)
    exact parseDocument_wellFormed hparse

-- -----------------------------------------------------------------------------
-- Registered documents

namespace SchemaSource

variable {files : FileSystem} {id : String} {schema : Value}

theorem fileDefinitions_wellFormed {path : FilePath}
    (h : (id, schema) ∈ files.fileDefinitions path) : schema.WellFormed := by
  cases hname : path.fileName? with
  | none => simp [FileSystem.fileDefinitions, hname] at h
  | some name =>
    cases hdocument : files.loadDocument path with
    | error => simp [FileSystem.fileDefinitions, hdocument] at h
    | ok document =>
      obtain ⟨rfl, -⟩ := (mem_fileDefinitions hname hdocument).mp h
      exact FileSystem.loadDocument_wellFormed hdocument

theorem definitions_wellFormed {source : SchemaSource}
    (h : (id, schema) ∈ source.definitions files) : schema.WellFormed := by
  unfold definitions at h
  split at h
  · split at h
    · obtain ⟨path, -, hmem⟩ := List.mem_flatMap.mp h
      exact fileDefinitions_wellFormed hmem
    · exact absurd h List.not_mem_nil
  · split at h
    · rename_i hdocument
      obtain ⟨-, rfl⟩ := Prod.mk.inj (List.mem_singleton.mp h)
      exact FileSystem.loadDocument_wellFormed hdocument
    · exact absurd h List.not_mem_nil

end SchemaSource

namespace Registry

theorem mem_define {registry : Registry} {definitions : List (String × Value)}
    {entry : String × Value} (h : entry ∈ (registry.define definitions).documents) :
    entry ∈ registry.documents ∨ entry ∈ definitions := by
  induction definitions generalizing registry with
  | nil => exact .inl h
  | cons definition rest ih =>
    rw [List.mem_cons, ← or_assoc]
    exact (ih h).imp_left fun hmem => (Assoc.mem_insert hmem).symm

theorem build_wellFormed {files : FileSystem} {config : Config} {directories : List FilePath}
    {registrations : List Registration} {registry : Registry}
    (h : build files config directories registrations = .ok registry) :
    ∀ document ∈ registry.documents.map Prod.snd, document.WellFormed := by
  obtain ⟨-, rfl⟩ := build_eq_ok.mp h
  intro document hmem
  obtain ⟨⟨id, schema⟩, hentry, rfl⟩ := List.mem_map.mp hmem
  obtain hempty | hdefined := mem_define hentry
  · exact absurd hempty List.not_mem_nil
  · obtain ⟨source, -, hmem⟩ := List.mem_flatMap.mp hdefined
    exact SchemaSource.definitions_wellFormed hmem

end Registry

end TreeSchema
