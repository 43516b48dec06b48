import TreeSchema.Unicode.Coding

/-!
# Binary properties

The sets of the binary properties that do not follow from other tables. The
properties that do are put together in `TreeSchema.Unicode.Property`.
-/

namespace TreeSchema.Unicode

/-- The names of each stored property, with its set. -/
def binaryTables : List (List String × String) :=
  [(["AHex", "ASCII_Hex_Digit"],
    "wBKHGaG"),
   (["Bidi_C", "Bidi_Control"],
    "8wBBxvGCaF3BE"),
   (["Bidi_M", "Bidi_Mirrored"],
    "oBCSBBBcBBBdBBBtBBPB-zDE96BC8sCCKC2BCOCxFBgGEDGDBDCDEBEBBBBEJFBBSFEJCBBBICfCEFBJCCTFCJFCCEYC
    QIEUCHC9hBOqCBCEBCBDFEFDDOzMWCGBOIBHGDBEFBCCFEBBDCCKGCCMTBECBBBCBBEFCGDYCLCEEBCCCErBCIBoBFBB
    BDFFDEBDFBBgIBjQEDCBCOCCKrBIrNKCI9xzBGFCiFCSBBBcBBBdBBBBCBC371BB5BB5BB5BB5BB"),
   (["CWCF", "Changes_When_Casefolded"],
    "hCa6CBKXBIgBBBBBBBBBBBBBBBBBBBBBBBBBBBBBBBBBBBBBBBBBBBBBBBBBBBBBBBBCBBBBBBBBBBBBBBBBCBBBBBBB
    BBBBBBBBBBBBBBBBBBBBBBBBBBBBBBBBBBBBBBCBBBBBBBCBBBCBDCEBCBDDCBCBBBBBCBBCBBCBDBBBCDBHCBCBCBBB
    BBBBBBBBBBBBBCBBBBBBBBBBBBBBBBBCCBBBDBBBBBBBBBBBBBBBBBBBBBBBBBBBBBBBBBBBBBBBBBBBBBBBBBBBBBBB
    BBBHCBCCBBEBBBBBBBB2HBqBBBBDBIBGBBDBBBCBRBJWBMDDCBBBBBBBBBBBBBBBBBBBBBBBBBCCCBBBCCzBwBBBBBBB
    BBBBBBBBBBBBBBBBBBBBBBBBBBBJBBBBBBBBBBBBBBBBBBBBBBBBBBBBBBBBBBBBBBBBBBBBBBBBBBBBBBCBBBBBBBBB
    BBBCBBBBBBBBBBBBBBBBBBBBBBBBBBBBBBBBBBBBBBBBBBBBBBBBBBBBBBBBBBBBBBBBBBBBBBBBBBBBBBBBBBBBBBBB
    BBBBBBBCmBwBB44CmBBBFBqZGikCJHrBCDgKBBBBBBBBBBBBBBBBBBBBBBBBBBBBBBBBBBBBBBBBBBBBBBBBBBBBBBBB
    BBBBBBBBBBBBBBBBBBBBBBBBBBBBBBBBBBBBBBBBBBBBBBBBBBBBBBBBBBBBBBBBBBBBBBBBBBBBBBBBBBBBBBBBBBBB
    BFCCBBBBBBBBBBBBBBBBBBBBBBBBBBBBBBBBBBBBBBBBBBBBBBBBBBBBBBBBBBBBBBBBBBBBBBBBBBBBBBBBBBBBBBBB
    BBBBBBBBBJIIGKIIIIGLBBBBBBBIIQwBCDCGFDCGLEMFFDCGpJBDCGBtBQTByZaw5BwBwBBBDCBBBBBBEBBCBIDBBBBB
    BBBBBBBBBBBBBBBBBBBBBBBBBBBBBBBBBBBBBBBBBBBBBBBBBBBBBBBBBBBBBBBBBBBBBBBBBBBBBBBBBBBBBBBBBBBB
    BIBBBEBtqeBBBBBBBBBBBBBBBBBBBBBBBBBBBBBBBBBBBBBBBBBBBBBTBBBBBBBBBBBBBBBBBBBBBBBBBBBnEBBBBBBB
    BBBBBBDBBBBBBBBBBBBBBBBBBBBBBBBBBBBBBBBBBBBBBBBBBBBBBBBBBBBBBBBBBBBBKBBBBCBBBBBBBBEBBBCBBBDB
    BBBBBBBBBBBBBBBBBBBFBFBBBBBBBBBBBBBBBEBBGBFBBBcB6bwCg6THMFpgBalmBoBoEkB8ELBPBHBCq3BzBt_CgBgs
    VgBg1eiB"),
   (["CWL", "Changes_When_Lowercased"],
    "hCalDXBHhBBBBBBBBBBBBBBBBBBBBBBBBBBBBBBBBBBBBBBBBBBBBBBBBBBBBBBBBCBBBBBBBBBBBBBBBCBBBBBBBBBB
    BBBBBBBBBBBBBBBBBBBBBBBBBBBBBBBBBBBBCBBBBDCBBBCBDCEBCBDDCBCBBBBBCBBCBBCBDBBBCDBHCBCBCBBBBBBB
    BBBBBBBBBCBBBBBBBBBBBBBBBBBCCBBBDBBBBBBBBBBBBBBBBBBBBBBBBBBBBBBBBBBBBBBBBBBBBBBBBBBBBBBBBBBH
    CBCCBBEBBBBBBBBhJBBBDBIBGBBDBBBCBRBJjBBIBBBBBBBBBBBBBBBBBBBBBBBFBCBBCCzBwBBBBBBBBBBBBBBBBBBB
    BBBBBBBBBBBBBBBJBBBBBBBBBBBBBBBBBBBBBBBBBBBBBBBBBBBBBBBBBBBBBBBBBBBBBBCBBBBBBBBBBBBCBBBBBBBB
    BBBBBBBBBBBBBBBBBBBBBBBBBBBBBBBBBBBBBBBBBBBBBBBBBBBBBBBBBBBBBBBBBBBBBBBBBBBBBBBBBBBBBBBCmBp6
    CmBBBFByW2C6kCrBCDgKBBBBBBBBBBBBBBBBBBBBBBBBBBBBBBBBBBBBBBBBBBBBBBBBBBBBBBBBBBBBBBBBBBBBBBBB
    BBBBBBBBBBBBBBBBBBBBBBBBBBBBBBBBBBBBBBBBBBBBBBBBBBBBBBBBBBBBBBBBBBBBBBBBBBBBBJBBBBBBBBBBBBBB
    BBBBBBBBBBBBBBBBBBBBBBBBBBBBBBBBBBBBBBBBBBBBBBBBBBBBBBBBBBBBBBBBBBBBBBBBBBBBBBBBBBBJIIGKIIII
    GLBBBBBBBIIYIIIIIIFLFLEMFLFpJBDCGBtBQTByZaw5BwBwBBBDCBBBBBBEBBCBIDBBBBBBBBBBBBBBBBBBBBBBBBBB
    BBBBBBBBBBBBBBBBBBBBBBBBBBBBBBBBBBBBBBBBBBBBBBBBBBBBBBBBBBBBBBBBBBBBBBBBIBBBEBtqeBBBBBBBBBBB
    BBBBBBBBBBBBBBBBBBBBBBBBBBBBBBBBBBTBBBBBBBBBBBBBBBBBBBBBBBBBBBnEBBBBBBBBBBBBBDBBBBBBBBBBBBBB
    BBBBBBBBBBBBBBBBBBBBBBBBBBBBBBBBBBBBBBBBBBBBBBBKBBBBCBBBBBBBBEBBBCBBBDBBBBBBBBBBBBBBBBBBBBFB
    FBBBBBBBBBBBBBBBEBBGBFBBBcBr5ValmBoBoEkB8ELBPBHBCq3BzBt_CgBgsVgBg1eiB"),
   (["CWT", "Changes_When_Titlecased"],
    "hDa6BBpBYBIBBBBBBBBBBBBBBBBBBBBBBBBBBBBBBBBBBBBBBBBBBBBBBBBBBBBBBBBCBBBBBBBBBBBBBBCBBBBBBBBB
    BBBBBBBBBBBBBBBBBBBBBBBBBBBBBBBBBBBBBCBBBBDCBBBCBDBFBCBDCDBCBBBBBCBEBCBDBBBCBDBBBEBBCBCBBBBB
    BBBBBBBBBBBBCBBBBBBBBBBBBBBBBBDBBBBDBBBBBBBBBBBBBBBBBBBBBBBBBBBBBBBBBBBBBBBDBBBBBBBBBBBBBBBB
    BIBCCBBEBBBBBBBBGBCBBBCDCBBBCBFCBBCCBHBCBBCDGFBKCmFBrBBBBDBDDSBbjBBCDDBBBBBBBBBBBBBBBBBBBBBB
    BFBBCBCB0BwBBBBBBBBBBBBBBBBBBBBBBBBBBBBBBBBBBBJBBBBBBBBBBBBBBBBBBBBBBBBBBBBBBBBBBBBBBBBBBBBB
    BBBBBBBBCBBBBBBBBBBBBCBBBBBBBBBBBBBBBBBBBBBBBBBBBBBBBBBBBBBBBBBBBBBBBBBBBBBBBBBBBBBBBBBBBBBB
    BBBBBBBBBBBBBBBBBBBBBBBBBBxBnBwzDGikCJwHBDBQByDBBBBBBBBBBBBBBBBBBBBBBBBBBBBBBBBBBBBBBBBBBBBB
    BBBBBBBBBBBBBBBBBBBBBBBBBBBBBBBBBBBBBBBBBBBBBBBBBBBBBBBBBBBBBBBBBBBBBBBBBBBBBBBBBBBBBBBBBBBB
    BBBBBBBBBBBHFBBBBBBBBBBBBBBBBBBBBBBBBBBBBBBBBBBBBBBBBBBBBBBBBBBBBBBBBBBBBBBBBBBBBBBBBBBBBBBB
    BBBBBBBBBBBBBBBJIGKIIIIGKIIIIOCIIIIIIFBCGBDDBCIECCIIKDBC2KBhBQEBraam6BwBBBDCBBBBBBGBCBKBBBBB
    BBBBBBBBBBBBBBBBBBBBBBBBBBBBBBBBBBBBBBBBBBBBBBBBBBBBBBBBBBBBBBBBBBBBBBBBBBBBBBBBBBBBBBBBBBBB
    BBIBBBEBMmBBBFBzoeBBBBBBBBBBBBBBBBBBBBBBBBBBBBBBBBBBBBBBBBBBBBBTBBBBBBBBBBBBBBBBBBBBBBBBBBBn
    EBBBBBBBBBBBBBDBBBBBBBBBBBBBBBBBBBBBBBBBBBBBBBBBBBBBBBBBBBBBBBBBBBBBBBBBBBBBKBBBCBBBBBBBBBEB
    EBBCCBBBBBBBBBBBBBBBBBBBLBBBBBBBBBBBBBBBEBBBGBFBBBcB8aBcwCg6THMFphBatmBoBoEkB7ELBPBHBCj4BzBt
    -CgBgsVgBi1eiB"),
   (["CWU", "Changes_When_Uppercased"],
    "hDa6BBpBYBIBBBBBBBBBBBBBBBBBBBBBBBBBBBBBBBBBBBBBBBBBBBBBBBBBBBBBBBBCBBBBBBBBBBBBBBCBBBBBBBBB
    BBBBBBBBBBBBBBBBBBBBBBBBBBBBBBBBBBBBBCBBBBDCBBBCBDBFBCBDCDBCBBBBBCBEBCBDBBBCBDBBBFCBCBCBBBBB
    BBBBBBBBBBCBBBBBBBBBBBBBBBBBCBCBBDBBBBBBBBBBBBBBBBBBBBBBBBBBBBBBBBBBBBBBBDBBBBBBBBBBBBBBBBBI
    BCCBBEBBBBBBBBGBCBBBCDCBBBCBFCBBCCBHBCBBCDGFBKCmFBrBBBBDBDDSBbjBBCDDBBBBBBBBBBBBBBBBBBBBBBBF
    BBCBCB0BwBBBBBBBBBBBBBBBBBBBBBBBBBBBBBBBBBBBJBBBBBBBBBBBBBBBBBBBBBBBBBBBBBBBBBBBBBBBBBBBBBBB
    BBBBBBCBBBBBBBBBBBBCBBBBBBBBBBBBBBBBBBBBBBBBBBBBBBBBBBBBBBBBBBBBBBBBBBBBBBBBBBBBBBBBBBBBBBBB
    BBBBBBBBBBBBBBBBBBBBBBBBxBnBo6CrBCD4XGikCJwHBDBQByDBBBBBBBBBBBBBBBBBBBBBBBBBBBBBBBBBBBBBBBBB
    BBBBBBBBBBBBBBBBBBBBBBBBBBBBBBBBBBBBBBBBBBBBBBBBBBBBBBBBBBBBBBBBBBBBBBBBBBBBBBBBBBBBBBBBBBBB
    BBBBBBBBBBBBBBBHFBBBBBBBBBBBBBBBBBBBBBBBBBBBBBBBBBBBBBBBBBBBBBBBBBBBBBBBBBBBBBBBBBBBBBBBBBBB
    BBBBBBBBBBBBBBBBBBBJIGKIIIIGKIIIIOC1BBCEBBBDDBCEBDECCIIKDBCEBxKBhBQEBraam6BwBBBDCBBBBBBGBCBK
    BBBBBBBBBBBBBBBBBBBBBBBBBBBBBBBBBBBBBBBBBBBBBBBBBBBBBBBBBBBBBBBBBBBBBBBBBBBBBBBBBBBBBBBBBBBB
    BBBBBBBIBBBEBMmBBBFBzoeBBBBBBBBBBBBBBBBBBBBBBBBBBBBBBBBBBBBBBBBBBBBBTBBBBBBBBBBBBBBBBBBBBBBB
    BBBBnEBBBBBBBBBBBBBDBBBBBBBBBBBBBBBBBBBBBBBBBBBBBBBBBBBBBBBBBBBBBBBBBBBBBBBBBBBBBKBBBCBBBBBB
    BBBEBEBBCCBBBBBBBBBBBBBBBBBBBLBBBBBBBBBBBBBBBEBBBGBFBBBcB8aBcwCg6THMFphBatmBoBoEkB7ELBPBHBCj
    4BzBt-CgBgsVgBi1eiB"),
   (["Dash"],
    "tBB8qBBzBBhyDBlgBBpgCG9BBnBBPBmMBkgDBCBfCEBcB-NBTBvDBwszBClBBKBpFB_8DB"),
   (["Dep", "Deprecated"],
    "pKBppBBjoCBBBphCClmCG5VC2m3bB"),
   (["Dia", "Diacritic"],
    "-CBBBnCBGBEBCC3P_EBIFGRCEBJC9HFxGB3BRBbBBBCBBmEIECmECECDDjCb7CL6BLiBC-DIpBKQc9BBQBDEcBqCBQBu
    DBQBuDBQBvBD8BBQBHB3DBuDBQBuDBQBtDCQB8DB8DGBBrDBNFrCCbBBBBBECiCDBC-BBwDBBCoBCEFZHBBKChWD0dCz
    FLJB7KD5JICBwBPCLoDBPBmBJ2BCqECgCGyCZEBGBCDyB_B5CMlBL9NBBDLDNDNDNCwnDD9JB6PGpDE_CByrdBMCBBcC
    yCCOiBmDDtDCqGBbS5BEkBB_CBMBkBB1EDhCEzBBkDFJDgECw5TBhYQuIBBBvBBtBCjCB8XB_kBGBqBBJqZC7RG1ODmC
    LxBEgGBpBBoCC4DC-BBsCBJDoDCyFCxCBQBYHDFtGBDB7DC7HC-DB2DCzDBtICiICEB8EBzCBSBxCBlNBiIBBCxCBv1F
    P60NF7BH4iBRwCC-_PEBHBCh4HuBCXgRDDGIICHeEi0D-BiGH3LB9BEgvBHtDDBD"),
   (["Emoji"],
    "jBBGBFKvDBEBt8HBMB4GBWB6CGPCvLCMBmFBZLEDnGBnHCKBJB6BEBFJBCBCCCBEBCBBCCBDBDCIDFBBBFMLCCBBCBBS
    BCCSGBBBCDCFBCCECLCFCCBFCBBBCUCFGBECBEBCBCGBBCBBBBBGBDBGBKCPBCBEBBBEDBBLCwBDJBOBOB0LCvODTCzB
    BEB6mBBMB5SBBBqrvDBqGBgFCMCOBCKrCaBCXBUBCJVCuFiBCwDCCBDCzCCDBnIB_BLGBYHCCIMBCECBECNCCBICJBFD
    MDIDCBBBEBGBDBG2CwBmCFICDEKDBBCDBCKjHMEB7IvBBKB5FwDNDJHuBBHIOEJHJ"),
   (["EComp", "Emoji_Component"],
    "jBBGBFKz-HB1GBrp3BB2-8Ba7PFwtBEszhYgD"),
   (["EMod", "Emoji_Modifier"],
    "7_8DF"),
   (["EBase", "Emoji_Modifier_Base"],
    "9wJB7GBQE3jzDB8BDCBCD1DCCLVTDBEDBDHBBBYBpGCEBVBECuFDDFzCBQDJBLB_RBCBIIGBJKCD4BB9BCBCBBRDBNlH
    DqBJ"),
   (["EPres", "Emoji_Presentation"],
    "64ICtGEDBCBpQCVCyBMrBBTBNBICRCFCIBFBVBHCBBEBCBHBECcBjBBBBEDBB9BDYBOB7aCzBBEBulxDBqGB-FBCKrCa
    BBYBUBCFBDVCuFhBMJBmCBWMrBEFMRDBDnCBBB7FC_BNEBYSBaCNB2C1CwBmCGBDDCDEELCHJjHMEB7IvBBKB5FwDNDJ
    HuBBHIOEJHJ"),
   (["ExtPict", "Extended_Pictographic"],
    "pFBEBt8HBMB4GBWB6CGPCvLCMB_CBmCBZLEDnGBnHCKBJB6BEBGBMByDK2DCLBBBBGBDBGBKCPBCBEBBBEDBBLFtBDJB
    OBOB0LCvODTCzBBEB6mBBMB5SBBBmrvDgINDfB8BGMCOBCKS5BbPKBUBCJBEJyNF-JIqIwBgE0DM1CrBME4BIKGoBIey
    CMvBBKB5NgI-f"),
   (["Ext", "Extender"],
    "3FB4QCubB5NB6aBwXB_DBjqCB4BBjTBuMBkCBp8EBrBFnDC9CD24bB2vBBieBWBpEBsDBVC7jVBwgCC6-CBoTDvmBBpl
    UC8kBCBB4qcCmgCD"),
   (["Gr_Link", "Grapheme_Link"],
    "tqCB_DB_DB_DB_DB_DB_DB_DBtDCQB8DBvDB_DBpGB0FC52BCeB9EBtUBjHBlDCmCCrsEBm0eBlBB3EBuEBsDB1JB2HB
    xyXBmwBBpBBOB5BB5DCrEB0DB0FBiDB0HB_DB8HB_DB2DB0DBtIBjIChFBzCBSBxCBlNBkICxCBpNC"),
   (["Hex", "Hex_Digit"],
    "wBKHGaGp1_BKHGaG"),
   (["Hyphen"],
    "tBB_DB8mBB7zEBpgCClwDBjXBnrzBBpFB3CB"),
   (["Ideo", "Ideographic"],
    "mgMCZJODleguGgCgwUgoWuLCqDqodBb4_FI2mBqBJnjJsMkoTg3pBgB6hEG-GCi0FOxpH_gD-QivBr6EFgjE"),
   (["IDSB", "IDS_Binary_Operator"],
    "w_LCCI"),
   (["IDST", "IDS_Trinary_Operator"],
    "y_LC"),
   (["Join_C", "Join_Control"],
    "sgIC"),
   (["LOE", "Logical_Order_Exception"],
    "gyDF7DFw3CDCB6nkBCCBBC"),
   (["NChar", "Noncharacter_Code_Point"],
    "wu_BgBuQC-__BC-__BC-__BC-__BC-__BC-__BC-__BC-__BC-__BC-__BC-__BC-__BC-__BC-__BC-__BC-__BC"),
   (["OAlpha", "Other_Alphabetic"],
    "wtBOBBBCBCBBoCLwBNBHQBlDHEECCEBjBBeQmDLlDCDJBDBEnFMDHGU2BCCPBCFDKCdD6BHCCCCKBKCdD6BFECCCEBeC
    DBLD6BIBDBCVCWDED6BHCCCCJCKCeB7BFDDBDKBoBF5BHBDBDICLCdD6BHBDBDICLCPBME6BHBDBDKBKCdDrCGBBBISC
    9BBCHSBjDBCGBCQBjFTJLBkBuDMBBCEXEEDBDCHDENMBBKE0zBCeCeCeCiCT8FCiBB2DMEJ-GF5BKCUqCCLDxBFwBP8B
    DeJCC5BLyBTwNOh2B0B2nCgB0jeIiBCiLBIBXF4CCyBQBB5BBmBFcMtBEwBMlBBjCOMBICtBDyBBBDCCFBsBFFBtHIz5
    TB3iCFm0BDBCFE0YEjMCzKD1BOtBCLDtBJJB9BDkBMSC5BDwBNOC8CJCBGBCB9EKXE6BHCCCCKBKCxGNBDqDStHHCHdC
    yCPBBqDLnDOhIN3HGBCCCDBBBuEHCGEBcKqBFBESLuBO3MIBHzCWBO6DGDBBCBDBBDBiCFBCBE8KEJCBBwBHDDugUBB3
    BHE9CCslTBh7IHBRCHBCBFkDB3lCBo_BaGaGa"),
   (["ODI", "Other_Default_Ignorable_Code_Point"],
    "vaBvwDCzyBCvlCB-nEB7xzBBvCJnggaBBegDgEwHwwD"),
   (["OGr_Ext", "Other_Grapheme_Extend"],
    "-tCBYBmLBYBmDBYBqHBSCnDBYB3DBPB1qDB2mBBhhECu7zBC-8EBYB4KBMBxHBgcB0huBBIFt1rYgD"),
   (["OIDC", "Other_ID_Continue"],
    "3FBvWBh_DJozBB"),
   (["OIDS", "Other_ID_Start"],
    "lkGCxkCBVBs7DC"),
   (["OLower", "Other_Lowercase"],
    "qFBPB1PJHCeFgDB0BBhsDBvhD_BNBiBlBxVBNBQNzGQwaay8BC-weCyGBhEDDCibEJB2gXBCDBqBBJ1j2B-B"),
   (["OMath", "Other_Math"],
    "-CBxbDCBaCCCghHBbDLBgBEYCOChCNEBDCEFSBEBCKBBDFGBDCCCBDBGDEFFrCFCEBCBCBBBFCCECESCCBBBHBBGCiJE
    oFCBBYBRB9NCMJFFFCCCDFOBBBCGYC5BBBBdEJC2KCfKzMW_BEgBCjj1BBBBEBzGBBBhm1B1CBnCBCCBCCCEBMBBBHBh
    CBECIBHBcBEBFBBDHB0KCZBZBfBZBfBZBfBZBfBZBICyBgwFEBbBCBBCBBKBEBBBBGBEBBBBBBDBCBBCBBBBBBBBBBCB
    BCEBHBEBEBBBKBRFDBFBR"),
   (["OUpper", "Other_Uppercase"],
    "grIQmaagjzDaGaGa"),
   (["Pat_Syn", "Pattern_Syntax"],
    "hBPKHaEBBaEiBHBBBCBBBCEBEBDBXBfB44HYIPCTBKxJwWgF2TesjBgQgEhMDEZPBtozBClIC"),
   (["Pat_WS", "Pattern_White_Space"],
    "JFSBkDBo8HCYC"),
   (["PCM", "Prepended_Concatenation_Mark"],
    "gwBG3GBxBBgMCwCB6-hCBPB"),
   (["QMark", "Quotation_Mark"],
    "iBBEBjEBPB86HIZCnwDBpOENDhxzBE9FBEB6CC"),
   (["Radical"],
    "g0LaB5CM2G"),
   (["RI", "Regional_Indicator"],
    "mv8Da"),
   (["STerm", "Sentence_Terminal"],
    "hBBMBQBpqBBzED0FBrBD2HB9BBBBDClJCk3BC2YBEClYBmGCsGBFB6JCiLEuFCCCdC8FChCC8dCJDkvDBNBWCtNB8ndB
    uICjHBDB-LC2CC_CB4ECzEDwEC5HBmzUBDCpFBMBQBhCB03CC9nBFsBE9FC1DE_DDhECGBQC4CCBCsDBhNC1LCFPpDC5
    HDlQBBB7HC3CCkNC0VCqCCp5SClEBhCCLBzaBmwTBovHB"),
   (["SD", "Soft_Dotted"],
    "pDCkGB5IBeB0BBUBgKBiDBBBpoGBzBBNBDBkEB9EBlNB2GCy5CBl9pDCyBCyBCyBCyBCyBCyBCyBCyBCyBCyBCyBCyBC
    mkCBxJCaB"),
   (["Term", "Terminal_Punctuation"],
    "hBBKBBBLCDB-ZBIBhQB5BBoCBOBBD0FBrBLBBrHC2BPfBlIC0nBCsFBEG3JC1YIlYB8DDnCC9EDDBnBECC6JCiLEuFCB
    DdC8FF-BC8dCJDkvDBNBEBKBBCDCsNC7ndCtIDjHF-LC2CC_CB3EDzED_DBQC5HBkzUDBEpFBKBBBLCDBhCBCB6hBBwB
    BmkBBnGB2JC4EGkCG5CE4dFsBE9FHwDE_DDhECGBQC4CFsDBhNDMCmLEDPpDC5HDlQBBB7HC3CCEC-MDtBBlUCqCCrpB
    F5vRClEBhCDKByaCmwTBnvHE"),
   (["UIdeo", "Unified_Ideograph"],
    "ggNguGgCgwUuwWCBBBCKBBBBCCD2uhCg3pBgB6hEG-GCi0FOxpH_gFr6EFgjE"),
   (["VS", "Variation_Selector"],
    "rgGDBBwv5BQw3gawH"),
   (["WSpace", "White_Space", "space"],
    "JFSBkDBaB_uFB_rCLdCFBvBBg9DB")]

/-- Identifier characters that normalisation would turn into something else: the
ones that may not start an identifier, and the ones that may not continue it. -/
def unstableStart : String :=
  "6bB41CB_DBnvICh-yBG2MC0DBBBBBBBBBBBBBBB_IC"

def unstableContinue : String :=
  "6bBgpLCh-yBG2MC0DBBBBBBBBBBBBBBB"

end TreeSchema.Unicode
