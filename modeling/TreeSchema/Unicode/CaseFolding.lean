import TreeSchema.Unicode.Coding

/-!
# Case folding

Two characters are case variants when they fold to the same character.
`FoldRun` describes evenly spaced pairs of variants: the first pair starts at
`first`, the next `stride` later, and each pair is `distance` apart. All pairs of
variants are listed, so one pass closes a set under case.
-/

namespace TreeSchema.Unicode

structure FoldRun where
  first : Nat
  count : Nat
  stride : Nat
  distance : Nat

namespace FoldRun

/-- Runs from their numbers; each starts at a distance from the one before. -/
def ofNumbers (start : Nat) : List Nat → List FoldRun
  | gap :: count :: stride :: distance :: rest =>
    ⟨start + gap, count, stride, distance⟩ :: ofNumbers (start + gap) rest
  | _ => []

def pairs (run : FoldRun) : List (Nat × Nat) :=
  (List.range run.count).map fun i =>
    (run.first + i * run.stride, run.first + i * run.stride + run.distance)

end FoldRun

def foldTable : String :=
  "hCaBgBKBA_mIIBAsJYBA_lIIBAsIiCBAnXABAnYLXBgBFBAmjITHBgBHBA_tHGBAmiIaBA5DBYCByBDCBHICBRXCBvBDCB
  HBAjGBBAyGBCCBEBAuGBCEBCCBtGFBAvCBBAqGBBArGBBABCBAtGBBAvGBBAhDBBAzGBBAxGBCIBCBAjFCBAzGBBA1GBBA
  iEBBA2GDCCBECD6GBCIBFCQBCBA6GDCB5GCCCBEBA7GBCQBHBA4BFEDBADDCBCQBGFEBGCIBNJCBTCBBABACDLEBGPEBqB
  EEBWBArxKBBABDBAoxKBCB_xKCBABDBAlCBBAnCBFCBKBA_wKBBA8wKBBA-wKKBAvqpBFBArqpBEBAoppBBCEkqpBFBA3v
  KBBAhqpBFBA9vKMBAnvKFBAjqpBFBAqppBWBA1opBBBAyopBnFBA0CABA0DABA5jHrBCCBGBABFDBiEEBA0DHBAmBCDBlB
  EBAgCCCB_BDRBgBBBA-BDBAgDDBA5BABA8CBBAlhHBBA2CGBA2BBBAwCCBAfAJBgBDBAvBDBA9rHJBAeDBAgCDBAZABA8B
  BBAlgHBBA2BGBAWBBAwBBBABEBAPDBA9qHGBAICBAjBHMCBaBAHFCDBJQBwCQgBBgBCBAujGCBAtjGKBAkjGDCBijGBBAj
  jGIBA8iGIBAuiGCBAtiGKBAkiGDCBiiGBBAjiGIBA8hGWRCBCBAlhGBBAkhGnBbCB2BBAPBHCBPwBCBhDmBBwBv7CmBBgj
  HnBBAgjHGBAgjHDrBBg-CtBDBg-CjVwCBw-lBwCGBI0kCBABEBAiuiBABAjuiBxHBAkwiBEBAm3DRBA4xiByDrCCBgDBA7
  BBBA6B_BwBCBgDIBIQGBIQIBIQIBIQGBIRECIPIBIQCBqCCEB2CECBkDCCBgECCBwDCCB-DEIBIQIBIQIBIQCBIDCQJdCB
  IQCBIFBAHOBAJ_JBAcuBQBQjBBABzZaBaq6BwBBwBgDBABHDCBLJQBDBABLZEBGMIBEGQBhDCCB1qeXCBgCOCBiFUEBCKI
  BEFQBYDQB5BCCBFFCBNBABFEIBCGEBCBAwBICIBXBAgdBICBTCCBJCIBGBABfBABs5VaBgB_mBoBBoBwFkBBoBgGTCnBBK
  EnBCCEnBMDEnBQBAnBx3BzBBgCghDgBBgBgtVgBBgBg2eiBBiB"

def foldRuns : List FoldRun := FoldRun.ofNumbers 0 (numbers foldTable)

/-- The set with the case variants of its members. -/
def caseClosure (set : CharSet) : CharSet :=
  let variants := (foldRuns.flatMap FoldRun.pairs).filterMap fun (a, b) =>
    match set.containsPoint a, set.containsPoint b with
    | true, false => some (CharSet.range b b)
    | false, true => some (CharSet.range a a)
    | _, _ => none
  variants.foldl CharSet.union set

/-- The set with the case variants of its ASCII letters. -/
def asciiCaseClosure (set : CharSet) : CharSet :=
  let letters := (List.range 26).filterMap fun i =>
    match set.containsPoint (0x41 + i), set.containsPoint (0x61 + i) with
    | true, false => some (CharSet.range (0x61 + i) (0x61 + i))
    | false, true => some (CharSet.range (0x41 + i) (0x41 + i))
    | _, _ => none
  letters.foldl CharSet.union set

end TreeSchema.Unicode
