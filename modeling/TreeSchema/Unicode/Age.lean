import TreeSchema.Unicode.Coding

/-!
# Ages

The version of the standard in which each code point was assigned. An age
includes the ages before it.
-/

namespace TreeSchema.Unicode

def ageNames : List (List String) :=
  [["NA", "Unassigned"], ["1.1", "V1_1"], ["7.0", "V7_0"], ["3.0", "V3_0"], ["6.0", "V6_0"],
   ["5.2", "V5_2"], ["5.1", "V5_1"], ["6.1", "V6_1"], ["4.1", "V4_1"], ["14.0", "V14_0"],
   ["4.0", "V4_0"], ["12.0", "V12_0"], ["3.2", "V3_2"], ["11.0", "V11_0"], ["8.0", "V8_0"],
   ["13.0", "V13_0"], ["9.0", "V9_0"], ["10.0", "V10_0"], ["3.1", "V3_1"], ["5.0", "V5_0"],
   ["15.0", "V15_0"], ["2.0", "V2_0"], ["6.3", "V6_3"], ["2.1", "V2_1"], ["6.2", "V6_2"],
   ["12.1", "V12_1"]]

def ageRuns : String :=
  "2PBEDeBIDBMBKSDDKLIOT5CBFDCKvBBBDKBFDRKmCBJDBMIKFIDKCBBDNMEGCBCGCABBDTBBBCEAHBBABBBAUBBAsBBBGH
  BBDCMBBBDBBBDBBBDBBBDSBCSBMFKEIBDMBBDiCBBDMBBDpBBBGCDCMED1BBCMCBCMCBCMBTcBCDIBCICBGTQMETQGCFCE
  ICBAmBBCAHBBNnBBBNBBBDCACCBHBARVBINVKBBTJBBVDIIAbBEABNFBLAEKBHBCFGBIBBJKFGBBBWBJBIBBBEaBFGTBDD
  DKGIBEOBCMoCBCDFBBDPBBDeBCKKBFDBKODBAeDDKbDCADKeISGxBDBMOA7BTCADNuBFCAPFBAcECABEBALRFAfJBACJGA
  IJBHBCLHGCCOBJIQKPLJBNPQBObHBCBFDBBK1BBCESBBFBEFBBFCEZBCGFEBCCFCTBICTBCDBBAIBCACBCAWBBAHBBABBD
  AEBCABBBKHBCACBCADBBIIABBEACBBAFBCAVBBFCRBNCABKBBBKBAGBEACBCAWBBAHBBACBBACBBACBCABBBAFBEACBCAD
  BDABGHAEBBABBHAPBBGBNKADBBAHBBKBBBADBBAWBBAHBBACBBAFBCAKBBADBBADBCABBPABBDKCAKBBHBKHABOGRBADBB
  AIBCACBCAWBBAHBBACBBABKEBCAIBBGCACBCADBHABPCBEACBBADBCGCALBBKGEKACBBAGBDADBBAEBDACBBABBBACBDAC
  BDADBDAIBBIDBEAFBDADBBAEBCABGGABBOABIMBIKFABCDBBNIBBADBBAXBBAKBBCFBCABJBGHBBADBBAEBHACBBACGBOC
  ABJCACBCGCAKBHABLIGBQBCCBBNIBBADBBAXBBAKBBAFBCACKHBBADBBAEBHACBGABJBBBACBCTCAKBBACTBUMABRBCCBB
  PIBBADBBAXBBEQBBECRBGGBBGBADBBAEBBEBQEADQBBHQBOCBCGCAKBGGDQHGBABPCDBASDDAYDBAJDBABDCAHDDABDEAG
  DBABDBAIDGAKCCADDMA6BBEAdBlBACBBABBBABLCBBLBBBABLBBGLEBBLHBBLDBBABBBABBCLCBBLNBBLDBCAFBBABBBAG
  BBUBAKBCACBCHgBAoCVBAhBVBDCGEAbVEEGVBDBVBAVVDDHVBDBVDDBAPDBABGBDCIDGEFCElBAiBDBGFDBGCDBGHDDGED
  GGaDgCGEFCGmBBBABHFABHCAnBBCMCIBBBIDH6CBFFkCBFFyCBGFHDBI_BDBIBDBAEDCAHDBABDBAEDCAnBDBIBDBAEDCA
  fDBIBDBAEDCAHDBABDBAEDCAHDBIHDBAXDBIfDBIBDBAEDCAHDBInBDBITDCACECIcDDAaIGA1CDBOCAGOCABF2TDJFdDD
  AxCDICHANMBJHMBJJABJXMJAUMMANMBADMBACMMA9CDBKCAKDGAKKGAPDBJKDGA4CDBNHAqBDBGFAmCFKAdKCCBAMKEAMK
  EABKDAqBKCAFKLAqBICFEAaIGAKIBFDACIgBKcICACI_BFBAdFCALFGAKFGAOFCAPCCPOJxBAsCTBJDAtBTCJBArBGDHMG
  GH0BEIAEE4BGDAPGDAzBGJQHArBNCADNIHIAjBFEHBRCCBLFAsDK4CIHTcGPCERBJBQBEBFCT7EBBVEG6CBGGWBCAGBCAm
  BBCAGBCAIBBABBBABBBABBBAfBCA1BBBAPBBAOBCAGBBATBCADBBAJBBAvBBBDXBBMGDFMCKCIBMHIFMBGBAEWHBBMCAbB
  BAFIIEDALBBVBXDDCMEIDFBEBYDCBOBRBJPASBCDHMBIETBGPA5BBCDBKBIPMBICTBGDFwBBBDBTEGBFCOEA7CBJDMMyHB
  OMBBBD5DBBDBMeD0BMCKLIMTBFLEHCEQBRlBBCDZALBVArEBUMBK2EBKMwCBIDIMUBCKCMBIBD2CBCDMMCIKMIKLIBGCFC
  KQIBTKGDFEGKFBETFBEBFEEYFBCEBBEEBCEcBBEjBBBEBBBEEBDEBBBFHBCEHBOMfBDEYBBEOBBEHIETBHBGBHCEcMEGQM
  gIDgQMOKGIHTFGETpBGDCFGFFaCCAgBCBABPiBCDNMCBLICBRZNEOPNBLvBIBJvBIBJNTDGBFDGETGGCFrDIHFCHFAtBIB
  ABHFABHCA2BICHHABIBEOABEXIJAHIBAHIBAHIBAHIBAHIBAHIBAHIBAHIBAgBGYIEGCITGBFKHHCCQFRFNBLDPLJiBAaD
  BA5CDMA2GDaAMDEA4BBDDDMBDBBBA0CBCMCAGBCM-CBBMFAoBBBGBRBNBA-CBBAQBYDDEFPQIUGMAQMdBCKBAkBBMFBKPM
  cBCKBIyBBPMMBEKvBBBZ3DBEKjDBCKfBBK2tGDKPgCKmtUBWIIGIFBHJOVRFNNPDJtkBDDASDCMQDBMMDBMDDBMBDJAwBF
  sJGUAgBGCESGIHcGGCBOBH4CFIAXIETFGCTrDGCEBOCECHMCKEBHDCBQBNCCGOCNGLCJFLEPFACJBABJBAFJYADJCPBCCH
  BEFGsBIBPDAKFGA4BTIAlCGBQIAMGGAcFCOCN0CGLABGdFDAuCFBALFEACFfCBA3BGJAOGCAKGCAEGcFECjCFYAFFXHKAG
  ECAGECAGEJAHEBAHEBAwBCEOCCCLEPEAwCOuBFCAKFGAk9KVMAXFEAxBFEAggCVuxGBCH7BMDFCAqDImBAHBMAFBFABDZB
  BAFBBABBBACBBACBBAsDBQEBJQAtLBQJgCBCA2BBHABJgBSMBBMBKCJQMKIGAEBDGHCCOVBCMCKKBBATBBAEBEADBBMBBB
  AnEBCABBBA-CBCM-CBDAGBCAGBCAGBCADBDAHBBAHBKADDBXDBMKBAaKBATKBACKBAPKCAOKiBA7DKFADKEAtBKDAJKrCI
  CCCQBAMGBPDABCvBAuBGiEAdGDAxBGPAcCEAfSBCESJADRbSFArBCFAeKBABKkBIEAOIqBAmBSCKmBSwCKCAKKGAkBQEAk
  BQEAoBCIA0BCLABCLJBAPJBAHJBACJBALJBAPJBAHJBACJjCA3JCJAWCKAICYAGJBAqBJBAJJlCAGKCABKBAsBKBACKDAB
  KCABKWFBAJF_BCIAJCwBATOBACOFAFOaTCFDABTaGFABGgCA4BHEACOCHQOCAuBOEIBACIFAIIBADIBAbICNCADIEAJIBN
  HAJIHAgBFgBCgBAnBCEAMCJA2BFDAdFCAbFFAIFSCHAECMAHCwCApCF3BAzBONAzBOHAGOoBNIAKNmJAfFBAqBPBADPCAC
  PrCADUoBNIAqBNWAaJmBAcPUAXLJAuCEEAeEGJJABCiCFBJKABNCAZHHAKHGA1BHBAOHDNBPIAnBCJApCHEOBCCPKHBCFO
  BAUCLASCBArBCBQDU-BAHOBABOBAEOBAPOBALOGA7BCFAKCGABODCBAICCACCCAWCBAHCBACCBAFCBABNJCCACCCADCCAB
  OGABCFAHCCAHCDAFCrEA6CQBPBQBABQBNBLCPeAoCCIAKCmFA2BCCASCUOiBAlCCLAKCGANQTA4BHBLBJGAKH2BAaOBNCA
  POEAQOHJ5FA8BNkDAzCCMABCHPCABPCAIPBACPBAePBACPCAMPJAKPmCAILCAuBLCALLbAoCRIA0BRCLXRBNFRNAQJ5BCH
  AKU2HAJQBAtBQBAOQKAdQDAgBQCAWQBAOQpCAHRBACRBAsBRDABRBACRBAJRIAKRGAGNBACNBAlBNBACNBAGNHAKN2JAZN
  HARUBApBUDAcU2CABPPAyBLNABLvbTqBCBOmDAjDTMCBAETBCLAkGOsyCAjDJNAvhBFBUJLdUq9DAnSO5tIA5REHAfCBAK
  CEACCvCJBAKJGAeCCAGCKAmCCKAKCBAHCBAVCFATCwVA7CNlDAlCHGLEABLvBHJLHARHgCABQBRCLBPLACPOAt_FQFNGLI
  AzXQjPPqBAJPn3IAEJBAHJBACJBACE9IREJPABUdADLCABUOAELIAsMRkoCArDCFANCDAJCHAKCCAIC8yEAuBJCAXJJA0D
  J8BA2HSKAnBSCABG0FSLOCJVAmCI6DAUUMAUNMA3CKJASTHNnEA1CSBAnCSBACSCABSCACSCAESBAMSBABSBAESBKCSBAh
  CSBAESCAISBAHSBAcSBAESBAFSBABSDAHSBAyKSCICAiJSCTCAyBSsUOPAFOBAPOwiBAfJGAGU1GAHQBARQCAHQBACQBAF
  QFA-BUhBABUwDAtBLDAOLCAKLEACLgKAfJRA6BLFABLwOAqBUmXAHJBAEJBACJBAPJBAlGCCAQCpBArCQBLEAKQEACQxYA
  kCNsCA9BLiGAEHBAbHBACHBABHCABHBAKHBAEHBABHBABHGABHEABHBABHBABHBADHBACHBABHCABHBABHBABHBABHBABH
  BACHBABHCAEHBAHHBAEHBAEHBABHBAKHBARHFADHBAFHBARH0BACHuIAsBGEAkDGMAPECAOEBCBAPEBAPEWCKALFCCDPfF
  BNBEBFLEBFBEBFCEBFDEBFDEFFIEBFHEBFKECHBLDPJEBFBECFCEBFKEEFCEBFKESQBP4BAaEBFCENAiBFJEBQEAJFHACE
  OAGR6EAhBEMCDOGEBCmCEBCCOUEMClBEBCFEECFOMCREHCIO_BEBCBEBC2FEBCEECCBO-BECCEHHCFOYESCBQpBCBQ2CCF
  EBHQEBHDEBHBEBHBEBHBEBHDEBHGECHEEBHBECHEEBHMECCCOLEwBCmCEKCBOCQCRBLCPEABUDJNCDAECDQCRBNBLCPDA0
  DEDUEAFU1CCENBUGAMLEABJPAMCEA4BCIAKCGAoBCIAeCCACPuCAMRBPDLJOGQBRIQIRBQCRMQBLMQBRDNPQNRFNBLBPEN
  CPBJBNBLENFONQGRLNCPGLDPCLKNGLBOCNILBPBJDLXRZN0CLMAONCAELBPDUDLCJDADLEPCUHAGLTPEJDUHPEJDUBABUD
  PDJIACUHPDJCUEAIJBUHAHJCUHAzEPBA3BPlBAKPkgBACV32pBSHPCJgBA1hEFEJBUGA-GECAi0FOOAxpHR_gDA-QSgvBA
  CVr6EPFAgjEUui3BACV-__BACV-__BACV-__BACV-__BACV-__BACV-__BACV-__BACV-__BACV-__BACV-__BACVBABSe
  AgDSgEAwHKuw_BAiggEVAA"

end TreeSchema.Unicode
