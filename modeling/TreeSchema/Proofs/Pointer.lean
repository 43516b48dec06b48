import TreeSchema.Proofs.Agreement

/-!
# Pointers

`pointer keys` is the pointer that walks through `keys`, whatever characters
these hold. It leads where the keys lead, through objects only, and to nothing
where they strand (`resolve_pointer`); a token that starts with `#` leads nowhere
else.
-/

namespace TreeSchema

namespace Value

inductive Leads : Value → List String → Value → Prop
  | here {value : Value} : Leads value [] value
  | member {members : Members} {key : String} {keys : List String} {child target : Value} :
      members.lookup key = some child → Leads child keys target →
      Leads (.object members) (key :: keys) target

/-- On the way along the keys there is a value that is no object, or an object
that lacks the next key. -/
inductive Strands : Value → List String → Prop
  | noObject {value : Value} {key : String} {keys : List String} :
      value.asMembers? = none → Strands value (key :: keys)
  | missing {members : Members} {key : String} {keys : List String} :
      members.lookup key = none → Strands (.object members) (key :: keys)
  | member {members : Members} {key : String} {keys : List String} {child : Value} :
      members.lookup key = some child → Strands child keys →
      Strands (.object members) (key :: keys)

end Value

namespace Text

variable {separator : Char} {part : List Char}

theorem split_of_not_mem (h : separator ∉ part) : split separator part = [part] := by
  induction part with
  | nil => rfl
  | cons c part ih =>
    simp only [List.mem_cons, not_or] at h
    simp [split, Ne.symm h.1, ih h.2]

theorem split_append (h : separator ∉ part) (rest : List Char) :
    split separator (part ++ separator :: rest) = part :: split separator rest := by
  induction part with
  | nil => simp [split]
  | cons c part ih =>
    simp only [List.mem_cons, not_or] at h
    simp [split, Ne.symm h.1, ih h.2]

end Text

namespace Reference

variable {document target : Value} {keys : List String}

-- -----------------------------------------------------------------------------
-- Walks

theorem walk_member {members : Members} {key : String} {child : Value}
    (h : members.lookup key = some child) :
    walk (.object members) (key :: keys) = walk child keys := by
  simp [walk, Value.member?, Value.asMembers?, h]

theorem walk_missing {members : Members} {key : String} (h : members.lookup key = none) :
    walk (.object members) (key :: keys) = none := by
  simp [walk, Value.member?, Value.asMembers?, h]

theorem walk_noObject {key : String} (h : document.asMembers? = none) :
    walk document (key :: keys) = none := by
  simp [walk, Value.member?, h]

theorem walk_of_leads (h : document.Leads keys target) : walk document keys = some target := by
  induction h with
  | here => rfl
  | member hchild _ ih => rw [walk_member hchild, ih]

theorem walk_of_strands (h : document.Strands keys) : walk document keys = none := by
  induction h with
  | noObject hleaf => exact walk_noObject hleaf
  | missing hmissing => exact walk_missing hmissing
  | member hchild _ ih => rw [walk_member hchild, ih]

theorem leads_or_strands (document : Value) (keys : List String) :
    (∃ target, document.Leads keys target) ∨ document.Strands keys := by
  induction keys generalizing document with
  | nil => exact .inl ⟨document, .here⟩
  | cons key keys ih =>
    cases document with
    | object members =>
      cases hchild : members.lookup key with
      | none => exact .inr (.missing hchild)
      | some child =>
        obtain ⟨target, hleads⟩ | hstrands := ih child
        · exact .inl ⟨target, .member hchild hleads⟩
        · exact .inr (.member hchild hstrands)
    | _ => exact .inr (.noObject rfl)

theorem walk_eq_some : walk document keys = some target ↔ document.Leads keys target := by
  refine ⟨fun h => ?_, walk_of_leads⟩
  obtain ⟨other, hleads⟩ | hstrands := leads_or_strands document keys
  · obtain rfl : target = other := by simpa [walk_of_leads hleads] using h.symm
    exact hleads
  · simp [walk_of_strands hstrands] at h

theorem walk_eq_none : walk document keys = none ↔ document.Strands keys := by
  refine ⟨fun h => ?_, walk_of_strands⟩
  obtain ⟨target, hleads⟩ | hstrands := leads_or_strands document keys
  · simp [walk_of_leads hleads] at h
  · exact hstrands

-- -----------------------------------------------------------------------------
-- Keys inside a pointer

def escapeChar (c : Char) : List Char :=
  if c = '~' then ['~', '0'] else if c = '/' then ['~', '1'] else [c]

def escape (key : String) : List Char := key.toList.flatMap escapeChar

def pointer (keys : List String) : String :=
  String.ofList (keys.flatMap fun key => '/' :: escape key)

theorem unescape_cons {c : Char} (h : c ≠ '~') (rest : List Char) :
    unescape (c :: rest) = c :: unescape rest := by
  rw [unescape] <;> simp [h]

theorem unescape_escapeChar (c : Char) (rest : List Char) :
    unescape (escapeChar c ++ rest) = c :: unescape rest := by
  by_cases htilde : c = '~'
  · subst htilde
    simp [escapeChar, unescape]
  by_cases hslash : c = '/'
  · subst hslash
    simp [escapeChar, unescape]
  simp [escapeChar, htilde, hslash, unescape_cons htilde]

theorem unescape_escape (key : String) : unescape (escape key) = key.toList := by
  unfold escape
  induction key.toList with
  | nil => rfl
  | cons c chars ih => rw [List.flatMap_cons, unescape_escapeChar, ih]

theorem slash_not_mem_escape (key : String) : '/' ∉ escape key := by
  intro h
  obtain ⟨c, -, hc⟩ := List.mem_flatMap.mp h
  unfold escapeChar at hc
  split at hc
  · simp at hc
  · split at hc
    · simp at hc
    · rename_i hslash
      exact hslash (List.mem_singleton.mp hc).symm

def replacePair (first second whole : Char) : List Char → List Char
  | a :: b :: rest =>
    if a = first ∧ b = second then whole :: replacePair first second whole rest
    else a :: replacePair first second whole (b :: rest)
  | short => short

section ReplacePair

variable {first second whole a b : Char}

theorem replacePair_pair (rest : List Char) :
    replacePair first second whole (first :: second :: rest) =
      whole :: replacePair first second whole rest := by
  simp [replacePair]

theorem replacePair_cons (h : a ≠ first) (rest : List Char) :
    replacePair first second whole (a :: rest) = a :: replacePair first second whole rest := by
  cases rest <;> simp [replacePair, h]

theorem replacePair_cons_cons (h : b ≠ second) (rest : List Char) :
    replacePair first second whole (a :: b :: rest) =
      a :: replacePair first second whole (b :: rest) := by
  simp [replacePair, h]

theorem exists_replacePair_cons (first second whole a : Char) (rest : List Char) :
    ∃ b rest', replacePair first second whole (a :: rest) = b :: rest' ∧ (b = a ∨ b = whole) := by
  cases rest with
  | nil => exact ⟨a, [], rfl, .inl rfl⟩
  | cons c rest =>
    rw [replacePair]
    split
    · exact ⟨whole, _, rfl, .inr rfl⟩
    · exact ⟨a, _, rfl, .inl rfl⟩

end ReplacePair

/-- A key may as well be read in two passes, as long as `~1` is replaced first:
neither pass makes a pair that the other one takes. -/
theorem unescape_eq_replacePair (text : List Char) :
    unescape text = replacePair '~' '0' '~' (replacePair '~' '1' '/' text) := by
  fun_induction unescape text with
  | case1 rest ih => rw [replacePair_pair, replacePair_cons (by decide), ih]
  | case2 rest ih =>
    have hfirst : replacePair '~' '1' '/' ('~' :: '0' :: rest) =
        '~' :: '0' :: replacePair '~' '1' '/' rest := by
      rw [replacePair_cons_cons (by decide), replacePair_cons (by decide)]
    rw [hfirst, replacePair_pair, ih]
  | case3 c rest hone hzero ih =>
    by_cases hc : c = '~'
    · subst hc
      cases rest with
      | nil => rfl
      | cons d rest =>
        have hd : d ≠ '1' := fun hd => hone rest rfl (by rw [hd])
        have hd' : d ≠ '0' := fun hd => hzero rest rfl (by rw [hd])
        rw [replacePair_cons_cons hd, ih]
        -- What the first pass puts behind the `~` is `d` or `/`, and so no `0`.
        obtain ⟨b, rest', hrest, hb⟩ :=
          exists_replacePair_cons '~' '1' '/' d rest
        rw [hrest, replacePair_cons_cons]
        rcases hb with rfl | rfl
        · exact hd'
        · decide
    · rw [replacePair_cons hc, replacePair_cons hc, ih]
  | case4 => rfl

-- -----------------------------------------------------------------------------
-- Reading a pointer

theorem split_escaped (key : String) (keys : List String) :
    Text.split '/' (escape key ++ keys.flatMap fun key => '/' :: escape key) =
      escape key :: keys.map escape := by
  induction keys generalizing key with
  | nil => simp [Text.split_of_not_mem (slash_not_mem_escape key)]
  | cons next keys ih =>
    rw [List.flatMap_cons, List.cons_append, Text.split_append (slash_not_mem_escape key), ih,
      List.map_cons]

theorem pointerKeys?_pointer (keys : List String) : pointerKeys? (pointer keys).toList = some keys := by
  cases keys with
  | nil => rfl
  | cons key keys =>
    rw [pointer, String.toList_ofList, List.flatMap_cons, List.cons_append, pointerKeys?,
      split_escaped, ← List.map_cons, List.map_map]
    congr 1
    simp [Function.comp_def, unescape_escape]

theorem follow_pointer (document : Value) (keys : List String) :
    follow document (pointer keys).toList = walk document keys := by
  rw [follow, pointerKeys?_pointer, Option.bind_some]

theorem resolve_root_pointer (root : Value) (registry : Registry) (keys : List String) :
    resolve ("#" ++ pointer keys) root registry = walk root keys := by
  have hsplit : split ("" ++ "#" ++ pointer keys) = ("", (pointer keys).toList) :=
    split_append _ (by decide)
  rw [resolve_of_head root registry (by simp), ← String.empty_append (s := "#"), hsplit,
    follow_pointer]

theorem resolve_id_pointer {id : String} (hid : id ≠ "") (hhash : '#' ∉ id.toList) (root : Value)
    (registry : Registry) (keys : List String) :
    resolve (id ++ "#" ++ pointer keys) root registry =
      (registry.lookup id).bind (walk · keys) := by
  have hhead : (id ++ "#" ++ pointer keys).toList.head? ≠ some '#' := by
    cases hchars : id.toList with
    | nil => exact absurd (String.toList_eq_nil_iff.mp hchars) hid
    | cons c chars =>
      rw [hchars, List.mem_cons, not_or] at hhash
      simpa [hchars] using Ne.symm hhash.1
  rw [resolve_of_head_ne root hhead, split_append _ hhash]
  simp only [follow_pointer]

theorem exists_leads_of_resolve {token : String} {root : Value} {registry : Registry}
    (hhead : token.toList.head? = some '#') (h : resolve token root registry = some target) :
    ∃ keys, root.Leads keys target := by
  rw [resolve_of_head root registry hhead] at h
  obtain ⟨keys, -, hwalk⟩ := Option.bind_eq_some_iff.mp h
  exact ⟨keys, walk_eq_some.mp hwalk⟩

/-- A pointer leads where its keys lead, in the root or, behind the id of a
document, in that document. Where the keys strand, and where no document has the
id, it resolves to nothing. Any other token with a `#` in front leads along some
keys as well, if it leads anywhere. -/
theorem resolve_pointer (root : Value) (registry : Registry) :
    (∀ keys,
      (∀ target, resolve ("#" ++ pointer keys) root registry = some target ↔
        root.Leads keys target) ∧
      (resolve ("#" ++ pointer keys) root registry = none ↔ root.Strands keys)) ∧
    (∀ id, id ≠ "" → '#' ∉ id.toList → ∀ keys,
      (∀ target, resolve (id ++ "#" ++ pointer keys) root registry = some target ↔
        ∃ document, registry.lookup id = some document ∧ document.Leads keys target) ∧
      (resolve (id ++ "#" ++ pointer keys) root registry = none ↔
        ∀ document, registry.lookup id = some document → document.Strands keys)) ∧
    ∀ token target, token.toList.head? = some '#' → resolve token root registry = some target →
      ∃ keys, root.Leads keys target := by
  refine ⟨fun keys => ?_, fun id hid hhash keys => ?_, fun token target => exists_leads_of_resolve⟩
  · rw [resolve_root_pointer]
    exact ⟨fun target => walk_eq_some, walk_eq_none⟩
  · rw [resolve_id_pointer hid hhash]
    constructor
    · intro target
      simp only [Option.bind_eq_some_iff, walk_eq_some]
    · simp only [Option.bind_eq_none_iff, walk_eq_none]

theorem resolve_pointer_escaped :
    let inner : Value := .object [("~1", .bool true)]
    let document : Value := .object [("a/b", .object [("", inner)])]
    let registry := Registry.empty.register "geo" document
    "geo" ≠ "" ∧ '#' ∉ "geo".toList ∧ pointer ["a/b", "", "~1"] = "/a~1b//~01" ∧
      resolve ("geo" ++ "#" ++ "/a~1b//~01") .null registry = some (.bool true) ∧
      "#/a~1b//~01".toList.head? = some '#' ∧
      ∃ keys, document.Leads keys (.bool true) := by
  intro inner document registry
  have hpointer : pointer ["a/b", "", "~1"] = "/a~1b//~01" := by decide
  have hleads : document.Leads ["a/b", "", "~1"] (.bool true) :=
    .member rfl (.member rfl (.member rfl .here))
  obtain ⟨hroot, hid, hback⟩ := resolve_pointer document registry
  have hresolve : resolve "#/a~1b//~01" document registry = some (.bool true) := by
    have h := ((hroot ["a/b", "", "~1"]).1 (.bool true)).mpr hleads
    rwa [hpointer] at h
  have hregistered : resolve ("geo" ++ "#" ++ "/a~1b//~01") .null registry = some (.bool true) := by
    have h := ((resolve_pointer .null registry).2.1 "geo" (by decide) (by decide)
      ["a/b", "", "~1"]).1 (.bool true)
    rw [hpointer] at h
    exact h.mpr ⟨document, rfl, hleads⟩
  exact ⟨by decide, by decide, hpointer, hregistered, by decide,
    hback "#/a~1b//~01" (.bool true) (by decide) hresolve⟩

end Reference

end TreeSchema
