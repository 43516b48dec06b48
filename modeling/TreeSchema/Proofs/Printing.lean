import Mathlib.Data.List.Forall2
import TreeSchema.Json.Printer
import TreeSchema.Json.Reader

/-!
# Reading printed JSON

A printed layout is read back as the value that it stands for. The laws are about
one text at a time, with any text after it: `Reads` for the text of a value, and
from it `Layout.ReadsAs` for a layout at whatever depth it is printed.
-/

namespace TreeSchema.Json

-- -----------------------------------------------------------------------------
-- Strings

theorem ofDigits?_hexDigit (c : Char) (h : c.toNat < 0x20) :
    ofDigits? 16 ['0', '0', hexDigit (c.toNat / 16), hexDigit (c.toNat % 16)] = some c.toNat := by
  have hall : ∀ n < 0x20,
      ofDigits? 16 ['0', '0', hexDigit (n / 16), hexDigit (n % 16)] = some n := by decide
  exact hall c.toNat h

theorem readCodeUnits_escapeChar {rest after : List Char} {units : List Nat}
    (h : readCodeUnits rest = some (units, after)) (c : Char) :
    readCodeUnits (escapeChar c ++ rest) = some (c.toNat :: units, after) := by
  unfold escapeChar
  split
  case h_8 =>
    split
    · rename_i hcontrol
      simp [readCodeUnits, ofDigits?_hexDigit _ hcontrol, h]
    · simp_all [readCodeUnits]
  all_goals simp [readCodeUnits, escaped?, h]

theorem readCodeUnits_escaped (text rest : List Char) :
    readCodeUnits (text.flatMap escapeChar ++ '"' :: rest) = some (text.map Char.toNat, rest) := by
  induction text with
  | nil => simp [readCodeUnits]
  | cons c text ih =>
    rw [List.flatMap_cons, List.append_assoc, readCodeUnits_escapeChar ih, List.map_cons]

theorem ofCodeUnits_toNat (text : List Char) : ofCodeUnits (text.map Char.toNat) = some text := by
  induction text with
  | nil => rfl
  | cons c text ih =>
    have hvalid : c.toNat < 0xD800 ∨ 0xDFFF < c.toNat ∧ c.toNat < 0x110000 := c.valid
    have hhigh : ¬(0xD800 ≤ c.toNat ∧ c.toNat < 0xDC00) := by omega
    have hlow : ¬(0xDC00 ≤ c.toNat ∧ c.toNat < 0xE000) := by omega
    rw [List.map_cons]
    unfold ofCodeUnits
    simp [hhigh, hlow, ih]

theorem readString_escaped (s : String) (rest : List Char) :
    readString (s.toList.flatMap escapeChar ++ '"' :: rest) = some (s, rest) := by
  simp [readString, readCodeUnits_escaped, ofCodeUnits_toNat]

theorem toList_quote (s : String) :
    (quote s).toList = '"' :: (s.toList.flatMap escapeChar ++ ['"']) := by
  simp [quote]

-- -----------------------------------------------------------------------------
-- Space

def Blank (text : List Char) : Prop := ∀ c ∈ text, isSpace c = true

theorem skipSpace_append {space : List Char} (h : Blank space) (text : List Char) :
    skipSpace (space ++ text) = skipSpace text :=
  List.dropWhile_append_of_pos h

theorem skipSpace_cons {c : Char} (h : isSpace c = false) (text : List Char) :
    skipSpace (c :: text) = c :: text := by
  simp [skipSpace, h]

theorem blank_newline (depth : Nat) : Blank (Layout.newline depth).toList := by
  intro c hmem
  simp only [Layout.newline, String.toList_ofList, List.mem_cons] at hmem
  rcases hmem with rfl | hmem
  · rfl
  · rw [List.eq_of_mem_replicate hmem]
    rfl

theorem readValue_skip {space : List Char} (h : Blank space) (fuel depth : Nat) (text : List Char) :
    readValue fuel depth (space ++ text) = readValue fuel depth text := by
  cases fuel with
  | zero => rfl
  | succ fuel => simp only [readValue, skipSpace_append h]

theorem readItems_skip {space : List Char} (h : Blank space) (fuel depth : Nat) (text : List Char) :
    readItems fuel depth (space ++ text) = readItems fuel depth text := by
  cases fuel with
  | zero => rfl
  | succ fuel => simp only [readItems, readValue_skip h]

theorem readMembers_skip {space : List Char} (h : Blank space) (fuel depth : Nat)
    (text : List Char) : readMembers fuel depth (space ++ text) = readMembers fuel depth text := by
  cases fuel with
  | zero => rfl
  | succ fuel => simp only [readMembers, skipSpace_append h]

-- -----------------------------------------------------------------------------
-- Values

/-- The text is read as the value, whatever comes after it. -/
structure Reads (depth : Nat) (text : List Char) (value : Value) : Prop where
  opens : ∃ c rest, text = c :: rest ∧ isSpace c = false ∧ c ≠ ']'
  read {fuel : Nat} (h : 2 * text.length ≤ fuel) (rest : List Char) :
    readValue fuel depth (text ++ rest) = some (value, rest)

variable {depth : Nat} {space closing : String} {lines : List String} {values : List Value}

theorem Reads.of_opening {c : Char} {text : List Char} {value : Value} (hspace : isSpace c = false)
    (hclosing : c ≠ ']')
    (h : ∀ fuel rest, 2 * text.length ≤ fuel →
      readValue (fuel + 1) depth (c :: (text ++ rest)) = some (value, rest)) :
    Reads depth (c :: text) value where
  opens := ⟨c, text, rfl, hspace, hclosing⟩
  read {fuel} hfuel rest := by
    rw [List.length_cons] at hfuel
    obtain ⟨fuel, rfl⟩ : ∃ less, fuel = less + 1 := Nat.exists_eq_add_one.mpr (by omega)
    exact h fuel rest (by omega)

theorem reads_string (depth : Nat) (s : String) :
    Reads depth (compact (.string s)).toList (.string s) := by
  rw [compact, toList_quote]
  refine .of_opening (by decide) (by decide) fun fuel rest _ => ?_
  simp (disch := decide) [readValue, skipSpace_cons, readString_escaped]

theorem reads_bool (depth : Nat) (b : Bool) : Reads depth (compact (.bool b)).toList (.bool b) := by
  cases b with
  | false =>
    show Reads depth ('f' :: ['a', 'l', 's', 'e']) _
    refine .of_opening (by decide) (by decide) fun fuel rest _ => ?_
    simp [readValue, skipSpace, isSpace, expect?]
  | true =>
    show Reads depth ('t' :: ['r', 'u', 'e']) _
    refine .of_opening (by decide) (by decide) fun fuel rest _ => ?_
    simp [readValue, skipSpace, isSpace, expect?]

theorem readValue_array {text rest : List Char} {c : Char} (h : skipSpace text = c :: rest)
    (hclosing : c ≠ ']') (fuel depth : Nat) :
    readValue (fuel + 1) (depth + 1) ('[' :: text) =
      (readItems fuel depth (c :: rest)).map fun read => (.array read.1, read.2) := by
  simp (disch := decide) only [readValue, skipSpace_cons, h]
  split
  · rename_i heq
    exact absurd (List.cons.inj heq).1 hclosing
  · rfl

theorem readValue_object {text rest : List Char} {c : Char} (h : skipSpace text = c :: rest)
    (hclosing : c ≠ '\x7d') (fuel depth : Nat) :
    readValue (fuel + 1) (depth + 1) ('\x7b' :: text) =
      (readMembers fuel depth (c :: rest)).map fun read => (.ofPairs read.1, read.2) := by
  simp (disch := decide) only [readValue, skipSpace_cons, h]
  split
  · rename_i heq
    exact absurd (List.cons.inj heq).1 hclosing
  · rfl

-- -----------------------------------------------------------------------------
-- Items and members

def ReadsMember (depth : Nat) (line : String) (pair : String × Value) : Prop :=
  ∃ text, line = quote pair.1 ++ ": " ++ text ∧ Reads depth text.toList pair.2

theorem ReadsMember.opens {line : String} {pair : String × Value}
    (h : ReadsMember depth line pair) : ∃ text, line.toList = '"' :: text := by
  obtain ⟨text, rfl, -⟩ := h
  exact ⟨pair.1.toList.flatMap escapeChar ++ ('"' :: ':' :: ' ' :: text.toList),
    by simp [toList_quote]⟩

theorem toList_join_cons (separator line : String) (lines : List String) :
    ∃ later, (Text.join separator (line :: lines)).toList = line.toList ++ later := by
  cases lines with
  | nil => exact ⟨[], by simp [Text.join]⟩
  | cons next lines =>
    simp only [Text.join, String.toList_append, List.append_assoc]
    exact ⟨_, rfl⟩

/-- Space before some lines is skipped up to the character that opens the first. -/
theorem skipSpace_join {blank text : List Char} {line : String} {c : Char} (hblank : Blank blank)
    (hopens : line.toList = c :: text) (hspace : isSpace c = false) (separator : String)
    (lines : List String) (after : List Char) :
    ∃ later, (Text.join separator (line :: lines)).toList ++ after = c :: later ∧
      skipSpace (blank ++ ((Text.join separator (line :: lines)).toList ++ after)) =
        c :: later := by
  obtain ⟨later, hjoin⟩ := toList_join_cons separator line lines
  have htail : (Text.join separator (line :: lines)).toList ++ after =
      c :: (text ++ later ++ after) := by
    rw [hjoin, hopens, List.cons_append, List.cons_append]
  refine ⟨_, htail, ?_⟩
  rw [skipSpace_append hblank, htail, skipSpace_cons hspace]

theorem toList_join_comma (space line next : String) (lines : List String) :
    (Text.join ("," ++ space) (line :: next :: lines)).toList =
      line.toList ++ ',' :: (space.toList ++ (Text.join ("," ++ space) (next :: lines)).toList) := by
  simp [Text.join]

theorem readItems_join (hspace : Blank space.toList) (hclosing : Blank closing.toList)
    (h : List.Forall₂ (fun line value => Reads depth line.toList value) lines values)
    (hne : lines ≠ []) {fuel : Nat}
    (hfuel : 2 * (Text.join ("," ++ space) lines).toList.length < fuel) (rest : List Char) :
    readItems fuel depth
        ((Text.join ("," ++ space) lines).toList ++ (closing.toList ++ ']' :: rest)) =
      some (values, rest) := by
  induction h generalizing fuel with
  | nil => exact absurd rfl hne
  | @cons line value lines values hline hlines ih =>
    obtain ⟨fuel, rfl⟩ : ∃ less, fuel = less + 1 := Nat.exists_eq_add_one.mpr (by omega)
    cases hlines with
    | nil =>
      simp only [Text.join] at hfuel ⊢
      rw [readItems, hline.read (by omega)]
      simp (disch := decide) [skipSpace_append hclosing, skipSpace_cons]
    | @cons next _ lines _ =>
      simp only [toList_join_comma, List.length_append, List.length_cons, List.append_assoc,
        List.cons_append] at hfuel ⊢
      have hlater : 2 * (Text.join ("," ++ space) (next :: lines)).toList.length < fuel := by omega
      rw [readItems, hline.read (by omega)]
      simp (disch := decide) [skipSpace_cons, readItems_skip hspace,
        ih (List.cons_ne_nil _ _) hlater]

theorem readMembers_join {pairs : List (String × Value)} (hspace : Blank space.toList)
    (hclosing : Blank closing.toList) (h : List.Forall₂ (ReadsMember depth) lines pairs)
    (hne : lines ≠ []) {fuel : Nat}
    (hfuel : 2 * (Text.join ("," ++ space) lines).toList.length < fuel) (rest : List Char) :
    readMembers fuel depth
        ((Text.join ("," ++ space) lines).toList ++ (closing.toList ++ '\x7d' :: rest)) =
      some (pairs, rest) := by
  induction h generalizing fuel with
  | nil => exact absurd rfl hne
  | @cons line pair lines pairs hline hlines ih =>
    obtain ⟨fuel, rfl⟩ : ∃ less, fuel = less + 1 := Nat.exists_eq_add_one.mpr (by omega)
    obtain ⟨key, value⟩ := pair
    obtain ⟨text, rfl, htext⟩ := hline
    have hcolon : (": " : String).toList = [':', ' '] := rfl
    have hblank : Blank [' '] := by simp [Blank, isSpace]
    have hread (after : List Char) (hlength : 2 * text.toList.length ≤ fuel) :
        readValue fuel depth (' ' :: (text.toList ++ after)) = some (value, after) :=
      (readValue_skip hblank fuel depth _).trans (htext.read hlength after)
    cases hlines with
    | nil =>
      simp only [Text.join, String.toList_append, toList_quote, hcolon, List.length_append]
        at hfuel ⊢
      simp (disch := decide) [readMembers, skipSpace_cons, readString_escaped, hread _ (by omega),
        skipSpace_append hclosing]
    | @cons next _ lines _ =>
      simp only [toList_join_comma, String.toList_append, toList_quote, hcolon, List.length_append,
        List.length_cons] at hfuel ⊢
      have hlater : 2 * (Text.join ("," ++ space) (next :: lines)).toList.length < fuel := by omega
      simp (disch := decide) [readMembers, skipSpace_cons, readString_escaped, hread _ (by omega),
        readMembers_skip hspace, ih (List.cons_ne_nil _ _) hlater]

-- -----------------------------------------------------------------------------
-- Layouts

namespace Layout

theorem toList_block (first last : Char) (indentation : Nat) (line : String)
    (lines : List String) :
    (block indentation (String.ofList [first]) (String.ofList [last]) (line :: lines)).toList =
      first :: ((newline (indentation + 1)).toList ++
        ((Text.join ("," ++ newline (indentation + 1)) (line :: lines)).toList ++
          ((newline indentation).toList ++ [last]))) := by
  simp only [block, String.toList_append, String.toList_ofList, List.append_assoc,
    List.cons_append, List.nil_append]

theorem reads_array
    (h : List.Forall₂ (fun line value => Reads depth line.toList value) lines values)
    (indentation : Nat) :
    Reads (depth + 1) (block indentation "[" "]" lines).toList (.array values) := by
  cases h with
  | nil =>
    have htext : (block indentation "[" "]" []).toList = '[' :: [']'] := by simp [block]
    rw [htext]
    refine .of_opening (by decide) (by decide) fun fuel rest _ => ?_
    simp (disch := decide) [readValue, skipSpace_cons]
  | @cons line value lines values hline hlines =>
    have htext := toList_block '[' ']' indentation line lines
    rw [show "[" = String.ofList ['['] from rfl, show "]" = String.ofList [']'] from rfl, htext]
    refine .of_opening (by decide) (by decide) fun fuel rest hfuel => ?_
    simp only [List.length_append, List.length_singleton, List.append_assoc, List.cons_append,
      List.nil_append] at hfuel ⊢
    have hitems := readItems_join (blank_newline (indentation + 1)) (blank_newline indentation)
      (.cons hline hlines) (List.cons_ne_nil _ _)
      (show 2 * (Text.join _ (line :: lines)).toList.length < fuel by omega) rest
    -- The first item keeps the reader from closing the array at once.
    obtain ⟨c, text, hopens, hspace, hclosing⟩ := hline.opens
    obtain ⟨later, htail, hskip⟩ := skipSpace_join (blank_newline (indentation + 1)) hopens hspace
      ("," ++ newline (indentation + 1)) lines ((newline indentation).toList ++ ']' :: rest)
    rw [htail] at hitems
    rw [readValue_array hskip hclosing, hitems]
    rfl

theorem reads_object {pairs : List (String × Value)}
    (h : List.Forall₂ (ReadsMember depth) lines pairs) (indentation : Nat) :
    Reads (depth + 1) (block indentation "\x7b" "\x7d" lines).toList (.ofPairs pairs) := by
  cases h with
  | nil =>
    have htext : (block indentation "\x7b" "\x7d" []).toList = '\x7b' :: ['\x7d'] := by simp [block]
    rw [htext]
    refine .of_opening (by decide) (by decide) fun fuel rest _ => ?_
    simp (disch := decide) [readValue, skipSpace_cons]
    rfl
  | @cons line pair lines pairs hline hlines =>
    have htext := toList_block '\x7b' '\x7d' indentation line lines
    rw [show "\x7b" = String.ofList ['\x7b'] from rfl, show "\x7d" = String.ofList ['\x7d'] from rfl,
      htext]
    refine .of_opening (by decide) (by decide) fun fuel rest hfuel => ?_
    simp only [List.length_append, List.length_singleton, List.append_assoc, List.cons_append,
      List.nil_append] at hfuel ⊢
    have hmembers := readMembers_join (blank_newline (indentation + 1)) (blank_newline indentation)
      (.cons hline hlines) (List.cons_ne_nil _ _)
      (show 2 * (Text.join _ (line :: lines)).toList.length < fuel by omega) rest
    -- The quote of the first key keeps the reader from closing the object at once.
    obtain ⟨text, hopens⟩ := hline.opens
    obtain ⟨later, htail, hskip⟩ := skipSpace_join (blank_newline (indentation + 1)) hopens
      (by decide) ("," ++ newline (indentation + 1)) lines
      ((newline indentation).toList ++ '\x7d' :: rest)
    rw [htail] at hmembers
    rw [readValue_object hskip (by decide), hmembers]
    rfl

def ReadsAs (depth : Nat) (layout : Layout) (value : Value) : Prop :=
  ∀ indentation, Reads depth (layout.indented indentation).toList value

theorem readsAs_string (depth : Nat) (s : String) : ReadsAs depth (.leaf (.string s)) (.string s) :=
  fun _ => reads_string depth s

theorem readsAs_bool (depth : Nat) (b : Bool) : ReadsAs depth (.leaf (.bool b)) (.bool b) :=
  fun _ => reads_bool depth b

theorem readsAs_list {items : List Layout} (h : List.Forall₂ (ReadsAs depth) items values) :
    ReadsAs (depth + 1) (.list items) (.array values) := by
  intro indentation
  refine reads_array ?_ indentation
  induction h with
  | nil => exact .nil
  | cons hitem _ ih => exact .cons (hitem (indentation + 1)) ih

theorem readsAs_record {fields : List (String × Layout)} {pairs : List (String × Value)}
    (h : List.Forall₂ (fun field pair => field.1 = pair.1 ∧ ReadsAs depth field.2 pair.2) fields
      pairs) : ReadsAs (depth + 1) (.record fields) (.ofPairs pairs) := by
  intro indentation
  refine reads_object ?_ indentation
  induction h with
  | nil => exact .nil
  | @cons field pair _ _ hfield _ ih =>
    obtain ⟨name, child⟩ := field
    obtain ⟨key, value⟩ := pair
    obtain ⟨rfl, hchild⟩ := hfield
    exact .cons ⟨_, rfl, hchild (indentation + 1)⟩ ih

theorem ReadsAs.read {layout : Layout} {value : Value} (h : ReadsAs depth layout value) :
    Json.read depth (layout.indented 0 ++ "\n") = some value := by
  have htext : (layout.indented 0 ++ "\n").toList = (layout.indented 0).toList ++ ['\n'] :=
    String.toList_append
  rw [Json.read, htext, (h 0).read (by rw [List.length_append]; omega)]
  rfl

end Layout

end TreeSchema.Json
