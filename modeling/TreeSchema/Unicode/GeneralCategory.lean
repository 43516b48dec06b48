import TreeSchema.Unicode.Coding

/-!
# General categories

Every code point has one general category. `categoryNames` lists the names of
each, `categoryRuns` the runs of equal category, and `categoryGroups` the names
that stand for several categories at once.
-/

namespace TreeSchema.Unicode

def categoryNames : List (List String) :=
  [["Cn", "Unassigned"], ["Ll", "Lowercase_Letter"], ["Lu", "Uppercase_Letter"],
   ["Lo", "Other_Letter"], ["Mn", "Nonspacing_Mark"], ["Po", "Other_Punctuation"],
   ["So", "Other_Symbol"], ["Mc", "Spacing_Mark"], ["Ps", "Open_Punctuation"],
   ["Pe", "Close_Punctuation"], ["No", "Other_Number"], ["Lm", "Modifier_Letter"],
   ["Sm", "Math_Symbol"], ["Nd", "Decimal_Number", "digit"], ["Sk", "Modifier_Symbol"],
   ["Sc", "Currency_Symbol"], ["Cf", "Format"], ["Pd", "Dash_Punctuation"],
   ["Nl", "Letter_Number"], ["Pi", "Initial_Punctuation"], ["Pf", "Final_Punctuation"],
   ["Lt", "Titlecase_Letter"], ["Zs", "Space_Separator"], ["Pc", "Connector_Punctuation"],
   ["Me", "Enclosing_Mark"], ["Co", "Private_Use"], ["Cc", "Control", "cntrl"],
   ["Zl", "Line_Separator"], ["Zp", "Paragraph_Separator"], ["Cs", "Surrogate"]]

/-- The names of a group, with the short names of its members. -/
def categoryGroups : List (List String × List String) :=
  [(["C", "Other"], ["Cc", "Cf", "Cn", "Co"]),
   (["L", "Letter"], ["Lu", "Ll", "Lt", "Lm", "Lo"]),
   (["LC", "Cased_Letter"], ["Lu", "Ll", "Lt"]),
   (["M", "Mark", "Combining_Mark"], ["Mn", "Mc", "Me"]),
   (["N", "Number"], ["Nd", "Nl", "No"]),
   (["P", "Punctuation", "punct"], ["Pc", "Pd", "Ps", "Pe", "Pi", "Pf", "Po"]),
   (["S", "Symbol"], ["Sm", "Sc", "Sk", "So"]),
   (["Z", "Separator"], ["Zs", "Zl", "Zp"])]

def categoryRuns : String :=
  "gBaBWDFBPDFBIBJBFBMBFBRCFKNCFDMCFaCBIBFBJBOBXBOaBBIBMBJBMhBaBWBFEPBGBFBOBGBDBTBMBQBGBOBGBMCKBO
  BBCFBOBKBDBUDKBFXCBMHCYBBMIBBCBBBCBBBCBBBCBBBCBBBCBBBCBBBCBBBCBBBCBBBCBBBCBBBCBBBCBBBCBBBCBBBC
  BBBCBBBCBBBCBBBCBBBCBBBCBBBCBBBCBBBCBBBCBBBCCBBCBBBCBBBCBBBCBBBCBBBCBBBCBBBCCBBCBBBCBBBCBBBCBB
  BCBBBCBBBCBBBCBBBCBBBCBBBCBBBCBBBCBBBCBBBCBBBCBBBCBBBCBBBCBBBCBBBCBBBCBBBCBBCCBBBCBBBCDBCCBBBC
  BBCCBBDCCBECBBCCBBDCDBCCBBCCBBBCBBBCBBCCBBBCCBBCBBCCBBDCBBBCBBCCCBBDBCDBEDBCBVBBBCBVBBBCBVBBBC
  BBBCBBBCBBBCBBBCBBBCBBBCBBBCCBBCBBBCBBBCBBBCBBBCBBBCBBBCBBBCBBBCCBBCBVBBBCBBDCBBBCBBBCBBBCBBBC
  BBBCBBBCBBBCBBBCBBBCBBBCBBBCBBBCBBBCBBBCBBBCBBBCBBBCBBBCBBBCBBBCBBBCBBBCBBBCBBBCBBBCBBBCBBBCBB
  BCBBBCHBCCBBCCCBBCBBECBBBCBBBCBBBCBBBClCBBDbBSLEOMLOOFLHOBLBOBLROwDEBCBBBCBBBLBOBCBBCABLDBBFBC
  EACOBCBFDCBABCBACCBBRCBAJCjBBBCCBDCDBBCBBBCBBBCBBBCBBBCBBBCBBBCBBBCBBBCBBBCBBBCBBBCFBBCBBBMBCB
  BCCCBzBCwBBBCBBBCBBBCBBBCBBBCBBBCBBBCBBBCBBBCBBBCBBBCBBBCBBBCBBBCBBBCBBBCBBBCBBBGFECYBCBBBCBBB
  CBBBCBBBCBBBCBBBCBBBCBBBCBBBCBBBCBBBCBBBCBBBCBBBCBBBCBBBCBBBCBBBCBBBCBBBCBBBCBBBCBBBCBBBCBBBCB
  BBCBBCCBBBCBBBCBBBCBBBCBBBCBBBCCBBCBBBCBBBCBBBCBBBCBBBCBBBCBBBCBBBCBBBCBBBCBBBCBBBCBBBCBBBCBBB
  CBBBCBBBCBBBCBBBCBBBCBBBCBBBCBBBCBBBCBBBCBBBCBBBCBBBCBBBCBBBCBBBCBBBCBBBCBBBCBBBCBBBCBBBCBBBCB
  BBCBBBCBBBCBBBCBBBCBBBCBBBCBBBCBBBCBBBAmBCCABLGFpBBBFBRCACGBPBAtBEBRBEBFCEBFCEBFBEIAbDEAEDCFLA
  GQDMCFBPCFCGLEBFBQDFgBDBLKDVEKNEFCDBEjDDBFBDHEBQBGGECLCEBGEECDKNDDCGBDOFBABQBDBEeDbECA5CDLEBDO
  AKNhBDJECLBGDFBLCABECPWDEEBLJEBLDEBLFECAPFBAZDDECABFBALDFAYDBOGDBACQGAIEpBDBLYEBQgBEBH2BDBEBHB
  EBDDHIEEHBECHBDHEKDCECFKNBFBLPDBECHBAIDCACDCAWDBAHDBABDDAEDCABEBDDHEECACHCACHBEBDIABHEACDBADDC
  ECAKNCDCPGKBGBPBDBFBECACEBHBAGDEACDCAWDBAHDBACDBACDBACDCABEBADHCEEACECADEDABEHAEDBABDHAKNCEDDB
  EBFKACEBHBAJDBADDBAWDBAHDBACDBAFDCABEBDDHFEBACEBHBACHBECABDPACDCECAKNBFBPHABDGEBABECHBAIDCACDC
  AWDBAHDBACDBAFDCABEBDBHBEBHEECACHCACHBEHACEBHEACDBADDCECAKNBGBDGKKABEBDBAGDDADDBAEDDACDBABDBAC
  DDACDDADDDAMDEACHBECHDADHBADHBECABDGABHOAKNDKGGBPBGFABEDHBEIDBADDBAXDBAQDCABEBDDEEHBADEBAEEHAC
  EBADDCABDCACDCECAKNHABFHKBGBDBECHBFIDBADDBAXDBAKDBAFDCABEBDBHBEFHBABECHBACHCEHACHGACDBACDCECAK
  NBACDBHMACECHJDBADDBApBDCEBDDHEEBADHBADHBEBDBGEADDBHHKDDCECAKNJKBGGDBABECHBASDDAYDBAJDBABDCAHD
  DABEEADHDEBABEBAIHGAKNCACHBFMAwBDBECDHEEABPGDBLIEBFKNCFlBACDBABDBAFDBAYDBABDBAKDBECDJEBDCAFDBA
  BLBAHEBAKNCAEDgBABDDGPFBGBFDGCEGGKNKKBGBEBGBEBGBEBIBJBIBJCHIDBAkBDEAOEBHFEBFCEFDLEBAkBEBAIGBEG
  GBACGFFEGCFlBArBDCHEEBHGEBHCECHCEBDKNGFGDCHCEEDDEBDDHCDHHDDEENDBECHCEGHBEBDBHKNDHBECGmBCBABCFA
  BCCArBBBFBLDBpKDBAEDCAHDBABDBAEDCApBDBAEDCAhBDBAEDCAHDBABDBAEDCAPDBA5BDBAEDCAjCDCADEJFUKDAQDKG
  GA2CCCAGBCABRsTDBGBFRDBWaDBIBJDArCDDFDSIDHASDDEBHJATDCEBHCFJASDCEMANDBADDBACEMA0BDCEBHHEIHBECH
  LEDFBLDFBPBDBECAKNGAKKGAGFBREFDEBQBEKNGAjBDBL1BDHAFDCEiBDBEBDFAmCDKAfDBADEEHCEDHEACHBEGHDEEABG
  DACFKNeDCAFDLAsBDEAaDGAKNBKDAiBGXDCECHBECACF1BDBHBEBHHEBABEBHBECHIEGHKECABEKNGAKNGAHFBLGFCAOEB
  YQExBAEEBHvBDBEBHFEBHBEFHBECHIDDAKNHFKGJEJGCFBACEBHeDBHEECHCEBHDECDKNsBDBEBHCEDHBEBHDECHIAEFkB
  DIHIECHCEDAFFKNDADDKNeDGLCFJBHArBCCADCIFIADEBFNEBHHEEDBEGDBECDBHCEBDFAsBB_BLNBBLiBBlBLgCEBCBBB
  CBBBCBBBCBBBCBBBCBBBCBBBCBBBCBBBCBBBCBBBCBBBCBBBCBBBCBBBCBBBCBBBCBBBCBBBCBBBCBBBCBBBCBBBCBBBCB
  BBCBBBCBBBCBBBCBBBCBBBCBBBCBBBCBBBCBBBCBBBCBBBCBBBCBBBCBBBCBBBCBBBCBBBCBBBCBBBCBBBCBBBCBBBCBBB
  CBBBCBBBCBBBCBBBCBBBCBBBCBBBCBBBCBBBCBBBCBBBCBBBCBBBCBBBCBBBCBBBCBBBCBBBCBBBCBBBCBBBCBBBCBBBCB
  BBCBBBCBBBCJBBCBBBCBBBCBBBCBBBCBBBCBBBCBBBCBBBCBBBCBBBCBBBCBBBCBBBCBBBCBBBCBBBCBBBCBBBCBBBCBBB
  CBBBCBBBCBBBCBBBCBBBCBBBCBBBCBBBCBBBCBBBCBBBCBBBCBBBCBBBCBBBCBBBCBBBCBBBCBBBCBBBCBBBCBBBCBBBCB
  BBCBBBCBBBCBBBCBBBCJBICGBCAGCCAIBICIBICGBCAGCCAIBBABCBABCBABCBABCIBICOBCAIBIVIBIVIBIVFBBACBECB
  VBOBBDODBBACBECBVDOEBCACBECBADOIBFCDOCADBBACBECBVCOBALWFQGRCFBTBUBICTBUBIBTIFBbBcFQBWJFBTBUEFC
  XDFBMBIBJLFBMBFBXKFBWFQBAKQBKBLCAGKDMBIBJBLKKDMBIBJBANLDAhBPPANEEYBEDYMEPACGBCEGBCCGBBDCCBDCBB
  BGBCCGBMFCGGBCBGBCBGBCBGECBGBBECBBEDBBCGCBCCFMBCEBBGBMCGBBBGQKjBSBCBBESBKCGEAFMFGCMEGBMCGBMCGB
  MHGBMfGCMCGBMBGBMfGsIMIGBIBJBIBJUGCMHGBIBJxCGBMeGZMoBGGMlCGZALGVA8BKuCGWK3FGBMJGBM2BGIMvDGBM4H
  GBIBJBIBJBIBJBIBJBIBJBIBJBIBJeKsBGFMBIBJfMBIBJBIBJBIBJBIBJBIBJQMgIGjEMBIBJBIBJBIBJBIBJBIBJBIBJ
  BIBJBIBJBIBJBIBJBIBJ_BMBIBJBIBJgBMBIBJiIMwBGVMCGGMnBGCAgBGBApDGwBCwBBBCBBDCCBBCBBBCBBBCBBECBBB
  CCBBCGBCLDCBBBCBBBCBBBCBBBCBBBCBBBCBBBCBBBCBBBCBBBCBBBCBBBCBBBCBBBCBBBCBBBCBBBCBBBCBBBCBBBCBBB
  CBBBCBBBCBBBCBBBCBBBCBBBCBBBCBBBCBBBCBBBCBBBCBBBCBBBCBBBCBBBCBBBCBBBCBBBCBBBCBBBCBBBCBBBCBBBCB
  BBCBBBCBBBCBBBCBBBCCBGGBCBBBCBBDEBCBBFAEFBKCFmBBBABBFABBCA4BDHABLBFOABEXDJAHDBAHDBAHDBAHDBAHDB
  AHDBAHDBAHDBAgBECFBTBUBTBUDFBTBUBFBTBUJFBRCFBRBFBTBUCFBTBUBIBJBIBJBIBJBIBJFFBLKFCREFBRBFBINFCG
  DFBIBJBIBJBIBJBIBJBRiBAaGBA5CGMA2GGaAMGEABWDFBGBLBDBSBIBJBIBJBIBJBIBJBIBJCGBIBJBIBJBIBJBIBJBRB
  ICJBGJSEECHBRFLCGDSBLBDBFCGBA2CDCACECOCLBDBR6CDBFDLBDFArBDBA-CDBACGEKKGgBDkBGMAQDfGBAKKeGIKBGP
  KgBGKKnBGPKgKGguGDgCG1wUDBL3jBDDA3BGJAoBDGLCFsIDBLDFQDKNCDUABCBBBCBBBCBBBCBBBCBBBCBBBCBBBCBBBC
  BBBCBBBCBBBCBBBCBBBCBBBCBBBCBBBCBBBCBBBCBBBCBBBCBBBCBBBCBBBDBEDYBFKEBFBLBCBBBCBBBCBBBCBBBCBBBC
  BBBCBBBCBBBCBBBCBBBCBBBCBBBCBBBCBBCLCEmCDKSCEGFIAXOJLCOBCBBBCBBBCBBBCBBBCBBBCBBBCDBBCBBBCBBBCB
  BBCBBBCBBBCBBBCBBBCBBBCBBBCBBBCBBBCBBBCBBBCBBBCBBBCBBBCBBBCBBBCBBBCBBBCBBBCBBBCBBBCBBBCBBBCBBB
  CBBBCBBBCBBBCBBBCBBBLIBBCBBBCBBCCBBBCBBBCBBBCBBBCBBBLCOBCBBBCBBBDBCBBBCDBBCBBBCBBBCBBBCBBBCBBB
  CBBBCBBBCBBBCBBBCBBFCBBFCBBBCBBBCBBBCBBBCBBBCBBBCBBBCBBECBBBCBBFABCBBBABBBABBBCBBBCBBYADLBCBBB
  DCLBBHDBEDDBEEDBEXDCHCEBHEGBEDAGKCGBPBGGA0BDEFIACHyBDQHCEIACFKNGASEGDDFBDBFCDBEKNcDIECFXDLECHL
  ABFdDDADEBHvBDBECHEECHCEDHNFBABLKNEACFFDBEBLJDKNFDBApBDGECHCECHCEJADDBEIDBEBHCAKNCAEFQDBLGDDGB
  DBHBEBHyBDBEBDDECDCEFDCEBDBEBDYACDBLCFLDBHCECHCFBDCLBHBEKAGDCAGDCAGDJAHDBAHDBArBBBOELJBBLCOEAw
  CBjBDCHBECHBECHBFBHBECAKNGAk9KDMAXDEAxBDEAggCdgoGZuLDCAqDDmBAHBMAFBFABDBEKDBMNDBAFDBABDBACDBAC
  DBAsDDROQArLDBJBIQGgCDCA2BDHABGgBAMDBPDGQEHFBIBJBFGAQEBFCRCXBIBJBIBJBIBJBIBJBIBJBIBJBIBJBIBJCF
  BIBJEFDXDFBAEFBRBIBJBIBJBIBJDFBMBRDMBABFBPCFEAFDBAnEDCABQBADFBPDFBIBJBFBMBFBRCFKNCFDMCFaCBIBFB
  JBOBXBOaBBIBMBJBMBIBJBFBIBJCFKDBLtBDCLfDDAGDCAGDCAGDCADDDACPBMBOBGCPBABGEMCGKADQCGCAMDBAaDBATD
  BACDBAPDCAODiBA7DDFADFEAtBKDAJG1BSEKRGCKDGBANGDABGvBAtBGBEiEAdDDAxBDPABEbKEAgBDEKJAUDBSIDBSFAm
  BDFEFAeDBABFkBDEAIDBFFSqBAoBCoBBuCDCAKNGAkBCEAkBBEAoBDIA0BDLABFLCBAPCBAHCBACCBALBBAPBBAHBBACBj
  CA3JDJAWDKAIDYAGLBAqBLBAJLlCAGDCABDBAsBDBACDDABDCAXDBABFIKXDCGHKfDIAJKwBATDBACDFAFKWDGKDABFaDF
  ABFgCA4BDEACKCDQKCAuBKBDDEBACEFAEEEDBADDBAdDCADEEABEJKHAJFHAdDCKBFdDDKgBAIDBGcDCEEAFKHFJA2BDDA
  HFWDCAIKTDFAIKSDHAEFMAHKwCApCD3BAzBCNAzBBHAGKkBDEEIAKNmJAfKBAqBDBACEBRCACDrCADEdDKKBDIAWDLEEKF
  FWASDEEEFmBAVDHKUAXDJABHBEBH1BDPEHFEAUKKNBECDCEBDJADEBHtBDDHEECHCECFBQEFBEKABQCAZDHAKNGADEkBDF
  EBHIEBAKNEFBDCHBDIAjBDBECFBDJACEBHwBDDHJECHEDEFEEBFBHBEKNBDBFBDDFBAUKLASDBAZDDHDECHBEBHCEGFBEC
  DBE-BAHDBABDBAEDBAPDBAKDBFGAvBDBEDHIEFAKNGACECHBAIDCACDCAWDBAHDBACDBAFDBACEBDCHBEEHCACHCADHCAB
  DGABHFAFDCHCAHEDAFErEA1BDDHIECHDEBHBEEDFFKNCFBABFBEDDeAwBDDHGEBHBEEHCEBHCECDBFBDIAKNmFAvBDDHEE
  CAEHCEBHCEXFEDCEiBAwBDDHIECHBEBHCEDFBDLAKNGANFTArBDBEBHBECHGEBHBEBDBFGAKN2BAbDCADECHEEBHFEEAKN
  CKDFBGHD5FAsBDDHJEBHCEBFkDAgBCgBBKNJKMAIDCABDCAIDBACDBAYDGHBACHCACEBHBEBDBHBDBHBEDFJAKNmCAIDCA
  nBDDHEECACEEHBEBDBFBDBHbABDKEoBDGEBHBDEEIFBEIABDGECHDEuBDNEBHCEDFBDFFNApCDHAKF2HAJDBAlBDBHHEBA
  GEBHBEBDFFKAKNTKDACFeDCAWEBABHHEBHCEBHCEpCAHDBACDBAmBDGEDABEBACEBAHEBDBEIAKNGAGDBACDBAgBDFHBAC
  EBACHBEBHBEBDHAKN2JATDCECHCFHACEBDBHNDBAiBDCHFEDACHBEBHBENFKN2CABDPAVKIGEPRGNABF6cDmDAvDSBAFFL
  AkGDsyCAhDDCFNAwhBDQQBEGDPEq9DAnSD5tIA5RDHAfDBAKNEACFvCDBAKNGAeDCAFEBFKAwBDHEFFEGELBFBGKAKNBAH
  KBAVDFATDwVAgBCgBBXKEFlDArCDEABEBD3BHHAEENLgCACLBFBLBELACHOA4_FDIA2mBDqBAJDn3IAELBAHLBACLBAjJD
  PABDdADDCABDOAEDIAsMDkoCArDDFANDDAJDHAKDCABGCEBFEQ8yEAuBECAXEJA0DG8BA2HGKAnBGCA8BGCHDEDGGHIQIE
  CGHEeGEE9BGVAiCGDEBG6DAUKMAUKMA3CGJAZKnEAaCaBaCHBBASBaCaBBCBACCCABCCACCCAECBAICEBBABBBAHBBALBa
  CaBCCBAECCAICBAHCBAaBCCBAECBAFCBABCDAHCBAaBaCaBaCaBaCaBaCaBaCaBaCcBCAZCBMZBBMGBZCBMZBBMGBZCBMZ
  BBMGBZCBMZBBMGBZCBMZBBMGBBCBBCAyBNgQG3BEEGyBEIGBEOGBECGFFPAFEBAPEwiBAKBBDUBGAGB1GAHEBARECAHEBA
  CEBAFEFA-BLhBABEwDAtBDDAHEHLCAKNEABDBGgKAeDBERAsBDEEKNFABPwOAbDBLEEKNmXAHDBAEDBACDBAPDBAlGDCAJ
  KHEpBAiBCiBBHEBLEAKNEACFxYA7BKBGDKBPEKsCAtBKBGPKiGAEDBAbDBACDBABDCABDBAKDBAEDBABDBABDGABDEABDB
  ABDBABDBADDBACDBABDCABDBABDBABDBABDBABDBACDBABDCAEDBAHDBAEDBAEDBABDBAKDBARDFADDBAFDBARD0BACMuI
  AsBGEAkDGMAPGCAPGBAPGBAlBGKANKhFG4BAdGNAsBGEAJGHACGOAGG6EA7HGFO4WGEARGDANGDA3DGEA_CGGAMGEABGPA
  MGEA4BGIAKGGAoBGIAeGCACGuCA0KGMAOGCANGDAJGHAuBGBAHGIAOGEAJGHAJGHAzEGBA3BGlBAKNmgBAg3pBDgBA6hED
  GA-GDCAi0FDOAxpHD_gDA-QDivBAr6EDFAgjEDxi3VABQeAgDQgEAwHEww_BA-__BZCA-__BZCA"

end TreeSchema.Unicode
