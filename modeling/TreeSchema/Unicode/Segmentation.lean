import TreeSchema.Unicode.Coding

/-!
# Segmentation classes

The classes that decide where grapheme clusters, words and sentences break.
Code points without a class of their own are `Other`, which is not a name that
a pattern can use.
-/

namespace TreeSchema.Unicode

-- -----------------------------------------------------------------------------
-- Grapheme cluster breaks

def graphemeBreakNames : List (List String) :=
  [["LV"], ["LVT"], ["EX", "Extend"], ["XX", "Other"], ["SM", "SpacingMark"], ["CN", "Control"],
   ["PP", "Prepend"], ["L"], ["V"], ["T"], ["LF"], ["CR"], ["ZWJ"], ["RI", "Regional_Indicator"]]

def graphemeBreakRuns : String :=
  "KFBKCFBLSF_CDhBFNDBFySDwDCzIDHCnIDtBCBDBCBDCCBDCCBDBC4BDGGKDLCBDBFuBDVCQDBClDDHCBGBDGCCDCCBDEC
  hBDBGBDBCeDbC7CDLC6BDJCJDBCYDECBDJCBDDCBDFCrBDDC0BDCGGDICqBDYCBGgBCBE2BDBCBEBCBDDEICEEBCCEBDHC
  KDCCdDBCCE4BDBCBDBCCEECCDCECDCEBCJDBCKDCCaDBCCDCCBE4BDBCBDDECCEDCCCDDCDDBCeDCCDDBCLDCCBE4BDBCB
  DDEFCBDCCBEBDCEBCUDCCWDGCBDBCCE4BDBCBDCCBEECCDCECDCEBCHDDCKDCCeDBC7BDBCBEBCCEDDDEBDDEBCJDBCoBD
  BCDEBC3BDBCBDDCEEBDDCBDECHDCCLDCCdDBCCE4BDBCBDBEBCCEBCCEBDBCCEBDCECCHDCCLDCCPDBEMDCCCE3BDCCBDB
  CCEECBDDEBDDEBCBGIDBCKDCCdDBCCEmCDBCEDBCCEDCBDBCBDHEBCSDCE9BDBCBDBEHCMDICiDDBCBDBEJCLDHCpCDCCb
  DBCBDBCBDBCEDCExBDOCBEFCBDCCFDLCBDkBCJDBCmDDECBEGCBDCCCECCXDCECCEDDCQDECNDBCBDBECCGDBCPDBCiDDg
  DHoCI4CJ9KDDCydDDCBEcDCCBEdDCCeDCCgCDCCBEHCIEBCCELCJDBCtBDDCBFBC1DDCCiBDBC2DDDCEECCDEEDCEBCGED
  C7GDCCCEBC5BDBEBCBEHCBDBCBDBCCDICGEKCCDBCwBDfCxBDECBEvBDHCBEBCFEBCCEmBDJCMDCCBEeDBEECCECCBEDC4
  BDBCBECCDEBCBEDCCEwBDIEICCECC4EDDCBDNCBEHCEDBCGDBCCDBECCmGDgCCrQDBFBCBMCFYDHFxBDQFgDDhBC-_CDDC
  tEDBCgDDgBCqRDGCpDDCC0udDECBDKCgBDCCwCDCCwIDBCDDBCEDBCXDCECCBEEDBCzCDCEyBDQECCaDSCNDBCmBDICZDL
  CCEMDdHDDDCBEvBDBCCEECCECCDEkBDBCjCDGCCECCCECCMDBCIDBCBEuBDBCzBDBCBDDCCDCCFDCCBDBCpBDBECCCEFDB
  EBCsHDCEBCCEBCCEBDBEBCSDBAbBBAbBBAbBBAbBBAbBBAbBBAbBBAbBBAbBBAbBBAbBBAbBBAbBBAbBBAbBBAbBBAbBBA
  bBBAbBBAbBBAbBBAbBBAbBBAbBBAbBBAbBBAbBBAbBBAbBBAbBBAbBBAbBBAbBBAbBBAbBBAbBBAbBBAbBBAbBBAbBBAbB
  BAbBBAbBBAbBBAbBBAbBBAbBBAbBBAbBBAbBBAbBBAbBBAbBBAbBBAbBBAbBBAbBBAbBBAbBBAbBBAbBBAbBBAbBBAbBBA
  bBBAbBBAbBBAbBBAbBBAbBBAbBBAbBBAbBBAbBBAbBBAbBBAbBBAbBBAbBBAbBBAbBBAbBBAbBBAbBBAbBBAbBBAbBBAbB
  BAbBBAbBBAbBBAbBBAbBBAbBBAbBBAbBBAbBBAbBBAbBBAbBBAbBBAbBBAbBBAbBBAbBBAbBBAbBBAbBBAbBBAbBBAbBBA
  bBBAbBBAbBBAbBBAbBBAbBBAbBBAbBBAbBBAbBBAbBBAbBBAbBBAbBBAbBBAbBBAbBBAbBBAbBBAbBBAbBBAbBBAbBBAbB
  BAbBBAbBBAbBBAbBBAbBBAbBBAbBBAbBBAbBBAbBBAbBBAbBBAbBBAbBBAbBBAbBBAbBBAbBBAbBBAbBBAbBBAbBBAbBBA
  bBBAbBBAbBBAbBBAbBBAbBBAbBBAbBBAbBBAbBBAbBBAbBBAbBBAbBBAbBBAbBBAbBBAbBBAbBBAbBBAbBBAbBBAbBBAbB
  BAbBBAbBBAbBBAbBBAbBBAbBBAbBBAbBBAbBBAbBBAbBBAbBBAbBBAbBBAbBBAbBBAbBBAbBBAbBBAbBBAbBBAbBBAbBBA
  bBBAbBBAbBBAbBBAbBBAbBBAbBBAbBBAbBBAbBBAbBBAbBBAbBBAbBBAbBBAbBBAbBBAbBBAbBBAbBBAbBBAbBBAbBBAbB
  BAbBBAbBBAbBBAbBBAbBBAbBBAbBBAbBBAbBBAbBBAbBBAbBBAbBBAbBBAbBBAbBBAbBBAbBBAbBBAbBBAbBBAbBBAbBBA
  bBBAbBBAbBBAbBBAbBBAbBBAbBBAbBBAbBBAbBBAbBBAbBBAbBBAbBBAbBBAbBBAbBBAbBBAbBBAbBBAbBBAbBBAbBBAbB
  BAbBBAbBBAbBBAbBBAbBBAbBBAbBBAbBBAbBBAbBBAbBBAbBBAbBBAbBBAbBBAbBBAbBBAbBBAbBBAbBBAbBBAbBBAbBBA
  bBBAbBBAbBBAbBBAbBBAbBBAbBBAbBBAbBBAbBBAbBBAbBBAbBBAbBBAbBBAbBBAbBBAbBBAbBBAbBBAbBBAbBBAbBBAbB
  BAbBBAbBBAbBBAbBBAbBBAbBBAbBBAbBBAbBBAbBBAbBBAbBBAbBBAbBBAbBBAbBBAbBBAbBBAbBBAbBBAbBBAbBBAbBBA
  bBBAbBBAbBBAbBBAbBBAbBBAbBBAbBBAbBBAbBBAbBBAbBBAbBBAbBBAbBBAbBBAbBBAbBBAbBBAbBBAbBBAbBBAbBBAbB
  BAbBBAbBBAbBBAbBBAbBBAbBBAbBBAbBBAbBBAbBBAbBBAbBBAbBBAbBBAbBBAbBBAbBBAbBBAbBBAbBBAbBBAbBBAbBBA
  bBBAbBBAbBBAbBBAbBBAbBMDXIEDxBJi5IDBChXDQCQDQCvGDBF-EDCCwCDMFhQDBCiHDBC1EDFCm0BDDCBDCCFDECoBDD
  CEDBClFDCC9RDECjMDCCwCDDCmCDLCxBDEC6DDBEBCBE1BDPCpBDBCCDCCKDDCBEtBDDEECCECCCDBGEDBCKDBGyBDDCkB
  DFCBEICQDCEsBDBCMDCCBEwBDDEJCCEBDCGFDECBDBEBC8CDDEDCCEBCBECCGDBCCDBC9EDBCDEICVDCCCE3BDCCBDBCBE
  BCEECDCECDDEJDBCKDCECDHCDDFCgGDDEICCEDCBEBCXDBCxCDBCCEGCBEBCCEBCBECCBECCrHDBCCEECCDEECCBECCbDC
  CyCDDEICCEBCBECCqDDBCBEBCCEGCBEBClDDDCCDECBEFCgIDDEJCBECC1HDBCFEBDCECDCCBEBCBGBEBGBEBCtEDDEECC
  DCCEEBCDDBEcDKCoBDGCBEBGECIDBCJDGCCEDCoBDGGNCBECC1MDBEHCBDGCBEBCyCDWCBDBEHCBECCBECC6DDGCDDBCBD
  CCBDHCBGBCiCDFEBDCCBDCEBCBEBC7KDCCCEJDCCBGBEwBDCEFCDDCEBCBEBCtnFDQFBCGDPC60NDFC7BDHC4gBDBCBD3B
  EHDECxCDBCLDCErlTDCCBDEF8yEDuBCCDXC-QDBCBEDCDDBEFCIFICCDHCeDEC0EDDC79BD3BCEDyBCIDBCODBCWDFCBDP
  CwqBDHCBDRCCDHCBDCCBDFCkDDBCgFDHC3LDBC9BDEC8PDECgfDHCtDDHC7kCDaN7PDFCggjYDgBFgDCgEFwHCwwDFgg8F
  D"

-- -----------------------------------------------------------------------------
-- Word breaks

def wordBreakNames : List (List String) :=
  [["XX", "Other"], ["LE", "ALetter"], ["Extend"], ["NU", "Numeric"], ["FO", "Format"],
   ["KA", "Katakana"], ["MN", "MidNum"], ["HL", "Hebrew_Letter"], ["ML", "MidLetter"],
   ["EX", "ExtendNumLet"], ["WSegSpace"], ["MB", "MidNumLet"], ["NL", "Newline"], ["LF"], ["CR"],
   ["DQ", "Double_Quote"], ["SQ", "Single_Quote"], ["ZWJ"], ["RI", "Regional_Indicator"]]

def wordBreakRuns : String :=
  "KABNCMBOSABKBABPEABQEABGBABLBAKDBIBGFAaBEABJBAaBKABMkBABBCABEHABBBABICABBFAXBBAfBBAgPBGAiBBwDC
  FBBACBCAEBBGBBGABBBIDBBABBBAUBBAzCBBArEBBAHCmFBBAmBBCAEBBABBBIpBBBGBBGAtBCBABCBACCBACCBABCIAbH
  EAEHBBBILAGEGACGCALCBABEDArBBVCKDBABDBGBACBBCjDBBABBHCBEBAGCCBCCBAECCBKDDBCABBPABEBBBCeBbCCA5C
  BLCBBOAKDhBBJCCBCABGBABBCABCCAWBECBBJCBBDCBBFCSAZBDCEALBFAYBBAGBBACEGAICqBBYCBEhBC2BBDCBBSCBBH
  CKBCCCAKDBAQBDCBAIBCACBCAWBBAHBBABBDAEBCABCBBHCCACCCADCBBIABCEACBBADBCCCAKDCBKABBBABCCADCBAGBE
  ACBCAWBBAHBBACBBACBBACBCABCBAFCEACCCADCDABCHAEBBABBHAKDCCDBBCLADCBAJBBADBBAWBBAHBBACBBAFBCABCB
  BICBADCBADCCABBPACBCCCAKDJABBGCBADCBAIBCACBCAWBBAHBBACBBAFBCABCBBHCCACCCADCHADCEACBBADBCCCAKDB
  ABBQABCBBBAGBDADBBAEBDACBBABBBACBDACBDADBDAMBEAFCDADCBAECCABBGABCOAKDQAFCIBBADBBAXBBAQBCABCBBH
  CBADCBAECHACCBADBCABBCACBCCCAKDQABBDCBAIBBADBBAXBBAKBBAFBCABCBBHCBADCBAECHACCGACBBACBCCCAKDBAC
  BBCMAECJBBADBBApBBCCBBHCBADCBAECBBFADBBCHADBCCCAKDKAGBBADCBASBDAYBBAJBBABBCAHBDABCEAGCBABCBAIC
  GAKDCACC9BABCCAHCMAICBAKD3CABCCAJCLAHCBAKDmBABBXACCGAKDLABCBABCBABCEACCIBBAkBBEAUCBACCFBLCBAkB
  CJABCkDAUCBAKDMAECEADCBADCCAHCDAECNAMCBABCKDECCAmBBBABBFABBCArBBBAtKBBAEBCAHBBABBBAEBCApBBBAEB
  CAhBBBAEBCAHBBABBBAEBCAPBBA5BBBAEBCAjCBCADCgBAQBQA2CBCAGBDAsTBCARBBKaBFArCBDALBHASBECJATBDCLAS
  BCCMANBBADBBACCgCAgBCJABCCAKDhBADCBEBCKDGA5CBHAFBCCiBBBCBBFAmCBKAfBBAMCEAMCKAKDgEAKDmBAXBFC5BA
  KCBAdCCABCKDGAKDWAfCxBAFCvBBRCIBDAKDRAJCMADCeBNCCBKDsBBOCMAkBBUCIAKDDADBKDkBBCAJBHArBBCADBQADC
  BAVCEBBCGBBCCBDCBBFAgGBgCC2IBCAGBCAmBBCAGBCAIBBABBBABBBABBBAfBCA1BBBAHBBABBDADBBAHBDAEBCAGBEAN
  BFADBBAHBDAHKBADKBABCBRCEIACLKABLCABICMFEBJPACJDABGPABJKABKFEBAKEBABBNABBQANBzBAhBCRABBEABBCAK
  BBABBDAFBGABBBABBBABBBAEBBALBCAEBFAFBEABBRApBBtZA0BB24BAlHBGAEBDCCBMAmBBBABBFABBCA4BBHABBPABCX
  BJAHBBAHBBAHBBAHBBAHBBAHBBAHBBAHBBAgBCvBABBwOABKEABBkBAGCBAFFFACB8CACCCFDA7CFBAEFFArBBBA-CBRAg
  BBwBAQFwGAvBFBA4CFolbAtkBBjCAuBBCAtIBDAQBKDCBUAvBBECBAKCBAfBCCwCBCCWAjGBFACBBABBBAFBYAQBBCDBBC
  EBBCXBFCEABCTA0BBMACCyBBSCKAKDGASCGBDABBBACBBCKDcBICCAXBNCMAdBDAECvBBOCOABBKDLABCKAKDGApBBOCJA
  DBBCIBCCCAKDhBADCyBABCBADCCACCFACCBABCeALBFCCADBCCKAGBCAGBCAGBJAHBBAHBBA6BBGAzDBICBACCCAKDGAk9
  KBMAXBEAxBBk4IAHBMAFBFABHBCKHBANHBAFHBABHBACHBACHBAKHiDBhBArLBSAgCBCA2BBoBAMBEAQCBGCABIBGLAQCD
  ACJYADJBGBABLBABGBIaAFBBAnEBCABEHABLEABGBABLBAKDBIBGFAaBEABJBAaBLA4BFCCfBDAGBCAGBCAGBCADBcADEE
  AMBBAaBBATBBACBBAPBCAOBiBA7DBlCA1BBoEABCiEAdBDAxBBPABCfAgBBNAeBFAmBBFCFAeBCAkBBEAIBBAFBqBA-EBC
  AKDGAkBBEAkBBEAoBBIA0BBMALBBAPBBAHBBACBBALBBAPBBAHBBACBjCA3JBJAWBKAIBYAGBBAqBBBAJBlCAGBCABBBAs
  BBBACBDABBCAXBKAXBJAfBhCATBBACBKAWBKAaBmCA4BBGACBgCABBDCBACCFAECEBBADBBAdBCADCEABCgBAdBDAdBjBA
  IBBAcBCCZA2BBKAWBKATBNASBuDApCB3BAzBBNAzBBNAkBBECIAKDmKAqBBBACCDACBrCADCdBKABBIAWBLCfASBECqBAV
  BbAXBJADC1BBPCfAKDBCCBCCBBJAECtBBLCCABEEABCKABECAZBHAKDGADCkBBOCBAKDEABBCCBBIAjBBBCCABBJADCwBB
  OCEBEAECBACCKDBBBABBjBASBBAZBMCGABCCBBC-BAHBBABBBAEBBAPBBAKBHAvBBMCFAKDGAECBAIBCACBCAWBBAHBBAC
  BBAFBBACCBBHCCACCCADCCABBGABCFAFBCCCAHCDAFCrEA1BBSCEBFAKDEABCDBeAwBBUCCBBABBIAKDmFAvBBHCCAJCXA
  EBCCiBAwBBRCDABBLAKDmBArBBNCBBHAKDzCAPCEAKDmGAsBBPClDAgCBKDVAIBCABBCAIBBACBBAYBGCBACCCAECBBBCB
  BCCMAKDmCAIBCAnBBHCCAHCBBBABBBCbABBKCoBBHCBBECIABCIABBLCuBBQCDABBSApCBnIAJBBAlBBICBAICBBPAKDYA
  eBCAWCBAOCpCAHBBACBBAmBBGCDABCBACCBAHCBBBCIAKDGAGBBACBBAgBBFCBACCBAFCBBHAKD2JATBECJACCBBBCNBBA
  iBBHCDAFCNAKD2CABBvCA6cBmDAvDBRAkGBsyCAhDBPAwhBBQEBCGBPCq9DAnSB5tIA5RBHAfBBAKDGAvCBBAKDGAeBCAF
  CLAwBBHCJAEBMAKDJAVBFATBwVAgCBgEArCBEABCBB3BCHAECNBgCACBBABBBCLACC-_PAEFBAHFBACFBABF_IADFyBABF
  OAEF40CArDBFANBDAJBHAKBDACCBAEE8yEAuBCCAXC-QAFCDAGCIEICCAHCeAEC0EADC7NA1CBBAnCBBACBCABBCACBCAE
  BBAMBBABBBAHBBAhCBBAEBCAIBBAHBBAcBBAEBBAFBBABBDAHBBA0KBCAZBBAZBBAfBBAZBBAfBBAZBBAfBBAZBBAfBBAZ
  BBAIBCAyBDgQA3BCEAyBCIABCOABCWAFCBAPCwiBAfBGAGB1GAHCBARCCAHCBACCBAFCFA-BBhBABCwDAtBBDAHCHBCAKD
  EABBhKAeBBCRAsBBECKD2OAcBECKDmXAHBBAEBBACBBAPBBAlGBLAHCpBAkCBHCBBEAKDmlBAEBBAbBBACBBABBCABBBAK
  BBAEBBABBBABBGABBEABBBABBBABBBADBBACBBABBCABBBABBBABBBABBBABBBACBBABBCAEBBAHBBAEBBAEBBABBBAKBB
  ARBFADBBAFBBARB0TAaBGAaBGAaB8CAaS7PAFCw_BAKDnghYABEeAgDCgEAwHCww_FA"

-- -----------------------------------------------------------------------------
-- Sentence breaks

def sentenceBreakNames : List (List String) :=
  [["XX", "Other"], ["LO", "Lower"], ["UP", "Upper"], ["LE", "OLetter"], ["EX", "Extend"],
   ["ST", "STerm"], ["NU", "Numeric"], ["CL", "Close"], ["FO", "Format"], ["SC", "SContinue"],
   ["SP", "Sp"], ["AT", "ATerm"], ["SE", "Sep"], ["LF"], ["CR"]]

def sentenceBreakRuns : String :=
  "JABKBNCKBOSABKBFBHEADHCACJBLBAKGBJEABFBAaCBHBABHDAaBBHBABHHABMaABKJABBBHBABIHABBEABBBHEAXCBAHC
  YBBAIBBCBBBCBBBCBBBCBBBCBBBCBBBCBBBCBBBCBBBCBBBCBBBCBBBCBBBCBBBCBBBCBBBCBBBCBBBCBBBCBBBCBBBCBB
  BCBBBCBBBCBBBCBBBCBBBCCBBCBBBCBBBCBBBCBBBCBBBCBBBCBBBCCBBCBBBCBBBCBBBCBBBCBBBCBBBCBBBCBBBCBBBC
  BBBCBBBCBBBCBBBCBBBCBBBCBBBCBBBCBBBCBBBCBBBCBBBCBBBCBBCCBBBCBBBCDBCCBBBCBBCCBBDCCBECBBCCBBDCDB
  CCBBCCBBBCBBBCBBCCBBBCCBBCBBCCBBDCBBBCBBCCCBBDBCDBEDCCBBCCBBCCBBBCBBBCBBBCBBBCBBBCBBBCBBBCBBBC
  CBBCBBBCBBBCBBBCBBBCBBBCBBBCBBBCBBBCCBCCBBBCBBDCBBBCBBBCBBBCBBBCBBBCBBBCBBBCBBBCBBBCBBBCBBBCBB
  BCBBBCBBBCBBBCBBBCBBBCBBBCBBBCBBBCBBBCBBBCBBBCBBBCBBBCBBBCBBBCBBBCBBBCHBCCBBCCCBBCBBECBBBCBBBC
  BBBCBBBClCBBDkBBHDCBEAMDOAFBHABDBABDRAwDEBCBBBCBBBDBABCBBCAEBBABCGABCBADCBABCBACCBBRCBAJCjBBBC
  CBDCDBBCBBBCBBBCBBBCBBBCBBBCBBBCBBBCBBBCBBBCBBBCBBBCFBBCBBBABCBBCCCBzBCwBBBCBBBCBBBCBBBCBBBCBB
  BCBBBCBBBCBBBCBBBCBBBCBBBCBBBCBBBCBBBCBBBCBBBCBBBAHEBCBBBCBBBCBBBCBBBCBBBCBBBCBBBCBBBCBBBCBBBC
  BBBCBBBCBBBCBBBCBBBCBBBCBBBCBBBCBBBCBBBCBBBCBBBCBBBCBBBCBBBCBBBCBBCCBBBCBBBCBBBCBBBCBBBCBBBCCB
  BCBBBCBBBCBBBCBBBCBBBCBBBCBBBCBBBCBBBCBBBCBBBCBBBCBBBCBBBCBBBCBBBCBBBCBBBCBBBCBBBCBBBCBBBCBBBC
  BBBCBBBCBBBCBBBCBBBCBBBCBBBCBBBCBBBCBBBCBBBCBBBCBBBCBBBCBBBCBBBCBBBCBBBCBBBCBBBCBBBCBBBCBBBCBB
  BCBBBAmBCCABDDABJCApBBBFHAtBEBABEBACEBACEBABEIAbDEAFDMAGIGACJCALEBABIDFrBDVEKGBACGBACDBEjDDBFB
  DHEBIBAGECDCEBAEECDKGDDCABDDFMABIBDBEeDbECA5CDLEBDOAKGhBDJECDCABJBFBDCABECAWDEEBDJEBDDEBDFEJAB
  FBABFDACFBAZDDEEALDFAYDBAGDBACIGAIEqBDYEBIhBE2BDDEBDSEBDHEKDCECFKGBAQDDEBAIDCACDCAWDBAHDBABDDA
  EDCABEBDHECACECADEBDIABEEACDBADDCECAKGCDKABDBABECADEBAGDEACDCAWDBAHDBACDBACDBACDCABEBAFEEACECA
  DEDABEHAEDBABDHAKGCEDDBELADEBAJDBADDBAWDBAHDBACDBAFDCABEBDIEBADEBADECABDPACDCECAKGJABDGEBADEBA
  IDCACDCAWDBAHDBACDBAFDCABEBDHECACECADEHADEEACDBADDCECAKGBABDQABEBDBAGDDADDBAEDDACDBABDBACDDACD
  DADDDAMDEAFEDADEBAEECABDGABEOAKGQAFEIDBADDBAXDBAQDCABEBDHEBADEBAEEHACEBADDCABDCACDCECAKGQABDDE
  BAIDBADDBAXDBAKDBAFDCABEBDHEBADEBAEEHACEGACDBACDCECAKGBACDBEMAEEJDBADDBApBDCEBDHEBADEBAEEBDFAD
  DBEHADDCECAKGKAGDBADEBASDDAYDBAJDBABDCAHDDABEEAGEBABEBAIEGAKGCACENAwBDBECDHEFAHDIEBAKGnBACDBAB
  DBAFDBAYDBABDBAKDBECDJEBDCAFDBABDBAHEBAKGCAEDgBABDXACEGAKGLABEBABEBABEEHCEIDBAkBDEAUEBACEFDLEB
  AkBEJABE5BArBDUEBDKGCFEAGDEEEDDEBDDECDHEDDEENDMEBDBEKGEECAmBCBABCFABCCArBDBABBsKDBAEDCAHDBABDB
  AEDCApBDBAEDCAhBDBAEDCAHDBABDBAEDCAPDBA5BDBAEDCAjCDCADECABFEACFXAQDQA2CCCAGBDAsTDBABFRDBKaDCHD
  ArCDDALDHASDEEJATDDECFJASDCEMANDBADDBACEMA0BDgBEDABDEABDBECAKGYABJBFEABJBFBADEBIBEKGGA5CDHAFDC
  EiBDBEBDFAmCDKAfDBAMEEAMEIACFKGeDCAFDLAsBDEAaDGAKGmBAXDFEEA1BDKEBAdECABEKGGAKGNABDEFEAfExBAFEv
  BDREIDDAKGCFCACFLAJEJACFBADEeDNECDKGsBDOEMAkBDUEDACFDAKGDADDKGkBDCFJBHArBDCADDQADEBAVEEDBEGDBE
  CDDEBDFAgGBgCEBCBBBCBBBCBBBCBBBCBBBCBBBCBBBCBBBCBBBCBBBCBBBCBBBCBBBCBBBCBBBCBBBCBBBCBBBCBBBCBB
  BCBBBCBBBCBBBCBBBCBBBCBBBCBBBCBBBCBBBCBBBCBBBCBBBCBBBCBBBCBBBCBBBCBBBCBBBCBBBCBBBCBBBCBBBCBBBC
  BBBCBBBCBBBCBBBCBBBCBBBCBBBCBBBCBBBCBBBCBBBCBBBCBBBCBBBCBBBCBBBCBBBCBBBCBBBCBBBCBBBCBBBCBBBCBB
  BCBBBCBBBCBBBCBBBCBBBCBBBCBBBCJBBCBBBCBBBCBBBCBBBCBBBCBBBCBBBCBBBCBBBCBBBCBBBCBBBCBBBCBBBCBBBC
  BBBCBBBCBBBCBBBCBBBCBBBCBBBCBBBCBBBCBBBCBBBCBBBCBBBCBBBCBBBCBBBCBBBCBBBCBBBCBBBCBBBCBBBCBBBCBB
  BCBBBCBBBCBBBCBBBCBBBCBBBCBBBCBBBCBBBCJBICGBCAGCCAIBICIBICGBCAGCCAIBBABCBABCBABCBABCIBICOBCAIB
  ICIBICIBICFBBACBFCBABBDADBBACBFCDAEBCACBECEAIBFCFADBBACBFCDALKBICECIDACJDAIHEABLDACMFIBKJACHBA
  CFHACHDFVABKFIBAKIBABBLACHBBNACHBANBzBAhBERABCEABCCABBDCCBDCBBBABCDAFCGABCBABCBABCBAECBABBECBB
  EDBBCACBCCFABCEBEABBRAQCQBDDBCBBED_LAEHdACHrMAaCaBxTAGHHAOHvCACHfAKHzMAWH_BAEHgBACHiQAwBCwBBBC
  BBDCCBBCBBBCBBBCBBECBBBCCBBCIBDCBBBCBBBCBBBCBBBCBBBCBBBCBBBCBBBCBBBCBBBCBBBCBBBCBBBCBBBCBBBCBB
  BCBBBCBBBCBBBCBBBCBBBCBBBCBBBCBBBCBBBCBBBCBBBCBBBCBBBCBBBCBBBCBBBCBBBCBBBCBBBCBBBCBBBCBBBCBBBC
  BBBCBBBCBBBCBBBCBBBCBBBCBBBCBBBCBBBCBBBCCBGABCBBBCBBDEBCBBMAmBBBABBFABBCA4BDHABDPABEXDJAHDBAHD
  BAHDBAHDBAHDBAHDBAHDBAHDBAgBEOHOACHCAKHEABFBDMABFFABHQACFIHjNABKBJBFCADDKHCAIHBADHBAJDGEBAFDCA
  FDEA2CDCACECADDBA6CDBAEDFArBDBA-CDRAgBDwBAQDgQAguGDgCAt0VDjCAuBDBABFtIDBACFQDKGCDUABCBBBCBBBCB
  BBCBBBCBBBCBBBCBBBCBBBCBBBCBBBCBBBCBBBCBBBCBBBCBBBCBBBCBBBCBBBCBBBCBBBCBBBCBBBCBBBDEEBAKEBABDB
  CBBBCBBBCBBBCBBBCBBBCBBBCBBBCBBBCBBBCBBBCBBBCBBBCBBBCDBCEwCDCEBABFDABFfAJDCABCBBBCBBBCBBBCBBBC
  BBBCBBBCDBBCBBBCBBBCBBBCBBBCBBBCBBBCBBBCBBBCBBBCBBBCBBBCBBBCBBBCBBBCBBBCBBBCBBBCBBBCBBBCBBBCBB
  BCBBBCBBBCBBBCBBBCBBBCBBBCBBBCBBBCBBBCKBBCBBBCBBCCBBBCBBBCBBBCBBBCBBBDCABCBBBCBBBDBCBBBCDBBCBB
  BCBBBCBBBCBBBCBBBCBBBCBBBCBBBCBBBCBBFCBBFCBBBCBBBCBBBCBBBCBBBCBBBCBBBCBBECBBBCBBFABCBBBABBBABB
  BCBBBCBBYADBBCBBBDDBHDBEDDBEEDBEXDFEEABETA0BDCACFIACEyBDSEIACFKGGASEGDDABDBACDBEKGcDIEBABFXDNE
  MAdDDAEEvBDOEHACFFABDKGGAFDBEKDKGFDBApBDOEJADDBEIDCECAKGDADFXDDABDDEyBDBEBDDECDCEFDCEBDBEBDYAD
  DCALDFECFDDCEKAGDCAGDCAGDJAHDBAHDBArBBBAOBGAwCBjBDIEBFCECAKGGAk9KDMAXDEAxBDkoIAuLDCAqDDmBAHBMA
  FBFABDBEKDBANDBAFDBABDBACDBACDBAsDDhBArLDCHQAgCDCA2BDoBAMDEAQECJBABJDACHHAQEBACJCAQHCACHHACJBL
  CABJCFBJGHEABJMAFDBAnEDCABIBABFGACHCACJBLBAKGBJEABFBAaCBHBABHDAaBBHBABHBACHBFCHBJBA4BDCEfDDAGD
  CAGDCAGDCADDcADIEAMDBAaDBATDBACDBAPDCAODiBA7DDlCA1BDoEABEiEAdDDAxBDPABEfAgBDNAeDFAmBDFEFAeDCAk
  BDEAIDBAFDqBAoBCoBBuCDCAKGGAkBCEAkBBEAoBDIA0BDMALCBAPCBAHCBACCBALBBAPBBAHBBACBjCA3JDJAWDKAIDYA
  BBCDDBBAqBBBAJBlCAGDCABDBAsBDBACDDABDCAXDKAXDJAfDhCATDBACDKAWDKAaDmCA4BDGACDgCABDDEBACEFAEEEDB
  ADDBAdDCADEEABEWACFIAdDDAdDjBAIDBAcDCEZA2BDKAWDKATDNASDuDApCD3BAzBCNAzBBNAkBDEEIAKGmKAqBDBACED
  ACDrCADEdDKABDIAWDLEEAFFWASDEEEFmBAVDbAXDJADE1BDPECFdAKGBECDCEBDJAEEtBDLECABIEFBEKABICAZDHAKGG
  ADEkBDOEBAKGBADFBDCEBDIAjBDBECABDJADEwBDOEEDCFCAEEBFCEKGBDBABDBACFgBASDBAZDMECFBACFBABECDBE-BA
  HDBABDBAEDBAPDBAKDBFGAvBDMEFAKGGAEEBAIDCACDCAWDBAHDBACDBAFDBACEBDHECACECADECABDGABEFAFDCECAHED
  AFErEA1BDSEEDCFDAKGEABEDDeAwBDUECDBABDIAKGmFAvBDHECAJEBACFFAPFEDCEiBAwBDRECFBABDLAKGmBArBDNEBD
  HAKG2BAbDCAPEEAKGCADFBAHD5FAsBDPElDAgBCgBBKGVAIDCABDCAIDBACDBAYDGEBACECAEEBDBEBDCEBFBABFJAKGmC
  AIDCAnBDHECAHEBDBABDBEbABDKEoBDHEBDEEDACFDABEIABDLEuBDQEBACFBDSApCDnIAJDBAlBDIEBAIEBDCFNAKGYAe
  DCAWEBAOEpCAHDBACDBAmBDGEDABEBACEBAHEBDBEIAKGGAGDBACDBAgBDFEBACEBAFEBDHAKG2JATDEECFHACEBDBENDB
  AiBDHEDAFECFLAKG2CABDvCA6cDmDAvDDRAkGDsyCAhDDPAwhBDQIBEGDPEq9DAnSD5tIA5RDHAfDBAKGEACFvCDBAKGGA
  eDCAFEBFKAwBDHECFHAEDBFLAKGJAVDFATDwVAgBCgBBYABFnDArCDEABEBD3BEHAEENDgCACDBABDBELACEOA4_FDIA2m
  BDqBAJDn3IAEDBAHDBACDBAjJDPABDdADDCABDOAEDIAsMDkoCArDDFANDDAJDHAKDDACEBFEI8yEAuBECAXE-QAFEDAGE
  IIIECAHEeAEE0EADE7NAaCaBaCHBBASBaCaBBCBACCCABCCACCCAECBAICEBBABBBAHBBALBaCaBCCBAECCAICBAHCBAaB
  CCBAECBAFCBABCDAHCBAaBaCaBaCaBaCaBaCaBaCaBaCcBCAZCBAZBBAGBZCBAZBBAGBZCBAZBBAGBZCBAZBBAGBZCBAZB
  BAGBBCBBCAyBGgQA3BEEAyBEIABEOABEDABFSAFEBAPEwiBAKBBDUBGAGB1GAHEBARECAHEBACEBAFEFA-BBhBABEwDAtB
  DDAHEHDCAKGEABDhKAeDBERAsBDEEKG2OAcDEEKGmXAHDBAEDBACDBAPDBAlGDLAHEpBAiBCiBBHEBDEAKGmlBAEDBAbDB
  ACDBABDCABDBAKDBAEDBABDBABDGABDEABDBABDBABDBADDBACDBABDCABDBABDBABDBABDBABDBACDBABDCAEDBAHDBAE
  DBAEDBABDBAKDBARDFADDBAFDBARD0TAaCGAaCGAaCsnBADH3rBAKGmgBAg3pBDgBA6hEDGA-GDCAi0FDOAxpHD_gDA-QD
  ivBAr6EDFAgjEDxi3VABIeAgDEgEAwHEww_FA"

end TreeSchema.Unicode
