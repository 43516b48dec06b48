import TreeSchema.Unicode.Age
import TreeSchema.Unicode.Binary
import TreeSchema.Unicode.CaseFolding
import TreeSchema.Unicode.GeneralCategory
import TreeSchema.Unicode.Script
import TreeSchema.Unicode.ScriptExtensions
import TreeSchema.Unicode.Segmentation

/-!
# Character properties by name

A name is looked up without regard to case, spaces, `_`, `-` and a leading
`is`. A name alone is a binary property, else a general category, else a
script; a property with a value is one of those with several values.
-/

namespace TreeSchema.Unicode

/-- The form in which names are compared. Of the names that start with `is`,
only `isc` is not another name without it. -/
def looseName (name : String) : String :=
  let strip (cs : List Char) := (cs.filter fun c =>
    !(c = ' ' || c = '_' || c = '-') && c.toNat < 0x80).map Char.toLower
  match name.toList with
  | i :: s :: rest =>
    if i.toLower = 'i' ∧ s.toLower = 's' then
      if strip rest = ['c'] then "isc" else String.ofList (strip rest)
    else String.ofList (strip (i :: s :: rest))
  | short => String.ofList (strip short)

/-- Whether a loose name is one of the names of an entry. -/
def isNamed (names : List String) (loose : String) : Bool := names.any (looseName · = loose)

-- -----------------------------------------------------------------------------
-- Properties with several values

/-- The classes of runs of the partition that carry one of the short names. -/
def withShortNames (table : List (List String)) (shortNames : List String) (index : Nat) : Bool :=
  ((table[index]?).bind List.head?).any shortNames.contains

def category (shortNames : List String) : CharSet :=
  setOfRuns (withShortNames categoryNames shortNames) categoryRuns

def categoryNamed? (loose : String) : Option CharSet :=
  if loose = "any" then some .all
  else if loose = "ascii" then some (.range 0 0x7F)
  else if loose = "assigned" then some (category ["Cn"]).complement
  else
    match categoryGroups.find? (isNamed ·.1 loose) with
    | some (_, members) => some (category members)
    | none =>
      (categoryNames.find? (isNamed · loose)).bind fun names =>
        (names.head?.filter (· ≠ "Cs")).map fun name => category [name]

/-- A set of a partition by the name of its class. Of `unnamed`, the class of
the code points that the standard leaves out, there is no set. -/
def classNamed? (table : List (List String)) (runs unnamed loose : String) : Option CharSet :=
  ((table.find? (isNamed · loose)).filter (!·.contains unnamed)).map fun names =>
    setOfRuns (fun index => table[index]? == some names) runs

def scriptNamed? : String → Option CharSet := classNamed? scriptNames scriptRuns "Unknown"

def scriptExtensionNamed? (loose : String) : Option CharSet := do
  let names ← (scriptNames.find? (isNamed · loose)).filter (!·.contains "Unknown")
  let short ← names.head?
  return setOfRuns (fun index =>
    ((scriptExtensionLists[index]?).map (·.splitOn " ")).any (·.contains short)) scriptExtensionRuns

/-- The code points assigned in a version of the standard or before it. The
first names of `ageNames` are numbers, which order the versions. -/
def ageNamed? (loose : String) : Option CharSet := do
  let names ← (ageNames.find? (isNamed · loose)).filter (!·.contains "Unassigned")
  let version ← names.head?.bind versionNumber?
  let version? index := (ageNames[index]?).bind fun names => names.head?.bind versionNumber?
  return setOfRuns (fun index => (version? index).any (· ≤ version)) ageRuns
where
  versionNumber? (text : String) : Option Nat :=
    match (text.splitOn ".").map String.toNat? with
    | [some major, some minor] => some (100 * major + minor)
    | _ => none

def valueNamed? (property value : String) : Option CharSet :=
  let property := looseName property
  let value := looseName value
  if isNamed ["gc", "General_Category"] property then categoryNamed? value
  else if isNamed ["sc", "Script"] property then scriptNamed? value
  else if isNamed ["scx", "Script_Extensions"] property then scriptExtensionNamed? value
  else if isNamed ["age", "Age"] property then ageNamed? value
  else if isNamed ["GCB", "Grapheme_Cluster_Break"] property then
    classNamed? graphemeBreakNames graphemeBreakRuns "Other" value
  else if isNamed ["WB", "Word_Break"] property then
    classNamed? wordBreakNames wordBreakRuns "Other" value
  else if isNamed ["SB", "Sentence_Break"] property then
    classNamed? sentenceBreakNames sentenceBreakRuns "Other" value
  else none

-- -----------------------------------------------------------------------------
-- Binary properties

def stored (shortName : String) : CharSet :=
  ((binaryTables.find? (·.1.head? == some shortName)).map (setOfGaps ·.2)).getD .empty

def lowercase : CharSet := (category ["Ll"]).union (stored "OLower")
def uppercase : CharSet := (category ["Lu"]).union (stored "OUpper")
def cased : CharSet := .unions [lowercase, uppercase, category ["Lt"]]

def alphabetic : CharSet :=
  .unions [lowercase, uppercase, category ["Lt", "Lm", "Lo", "Nl"], stored "OAlpha"]

def whiteSpace : CharSet := stored "WSpace"

def graphemeExtend : CharSet := (category ["Me", "Mn"]).union (stored "OGr_Ext")

/-- Characters reserved for the syntax of patterns identify nothing. -/
def withoutPatternSyntax (set : CharSet) : CharSet :=
  (set.diff (stored "Pat_Syn")).diff (stored "Pat_WS")

def identifierStart : CharSet :=
  withoutPatternSyntax
    ((category ["Lu", "Ll", "Lt", "Lm", "Lo", "Nl"]).union (stored "OIDS"))

def identifierContinue : CharSet :=
  withoutPatternSyntax
    (.unions [identifierStart, category ["Mn", "Mc", "Nd", "Pc"], stored "OIDC"])

def caseIgnorable : CharSet :=
  (category ["Mn", "Me", "Cf", "Lm", "Sk"]).union
    (setOfRuns (withShortNames wordBreakNames ["ML", "MB", "SQ"]) wordBreakRuns)

def defaultIgnorable : CharSet :=
  (CharSet.unions [stored "ODI", category ["Cf"], stored "VS"]).diff
    (.unions [whiteSpace, stored "PCM", .range 0xFFF9 0xFFFB, .range 0x13430 0x1343F])

def derived : List (List String × CharSet) :=
  [(["Alpha", "Alphabetic"], alphabetic),
   (["CI", "Case_Ignorable"], caseIgnorable),
   (["Cased"], cased),
   (["CWCM", "Changes_When_Casemapped"], .unions [stored "CWL", stored "CWT", stored "CWU"]),
   (["DI", "Default_Ignorable_Code_Point"], defaultIgnorable),
   (["Gr_Base", "Grapheme_Base"],
    ((category ["Cc", "Cf", "Cs", "Co", "Cn", "Zl", "Zp"]).union graphemeExtend).complement),
   (["Gr_Ext", "Grapheme_Extend"], graphemeExtend),
   (["IDC", "ID_Continue"], identifierContinue),
   (["IDS", "ID_Start"], identifierStart),
   (["Lower", "Lowercase"], lowercase),
   (["Math"], (category ["Sm"]).union (stored "OMath")),
   (["Upper", "Uppercase"], uppercase),
   (["XIDC", "XID_Continue"], identifierContinue.diff (setOfGaps unstableContinue)),
   (["XIDS", "XID_Start"], identifierStart.diff (setOfGaps unstableStart))]

def binaryNamed? (loose : String) : Option CharSet :=
  match binaryTables.find? (isNamed ·.1 loose) with
  | some (_, gaps) => some (setOfGaps gaps)
  | none => (derived.find? (isNamed ·.1 loose)).map Prod.snd

def propertyNamed? (name : String) : Option CharSet :=
  let loose := looseName name
  (binaryNamed? loose).or ((categoryNamed? loose).or (scriptNamed? loose))

-- -----------------------------------------------------------------------------
-- Classes with names of their own

def digit : CharSet := category ["Nd"]

def space : CharSet := whiteSpace

def word : CharSet :=
  .unions [alphabetic, category ["Mn", "Mc", "Me", "Nd", "Pc"], stored "Join_C"]

/-- Characters that can be shown as they are: not space, save U+0020, not
control, format, private or unassigned characters, and nothing that joins the
character before it. -/
def showable : CharSet :=
  let hidden := (category ["Cc", "Cf", "Cs", "Co", "Cn", "Zl", "Zp", "Zs"]).union graphemeExtend
  hidden.complement.union (.range 0x20 0x20)

def alphanumeric : CharSet := alphabetic.union (category ["Nd", "Nl", "No"])

end TreeSchema.Unicode
