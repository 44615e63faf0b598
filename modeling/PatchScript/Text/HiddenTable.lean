import PatchScript.Text.CharTable

/-!
# Characters that cannot be shown

Control and format characters, unassigned code points, blanks other than the space,
fillers, and marks that combine with the character before them.
-/

namespace PatchScript
namespace Text

/-- Characters above ASCII that are escaped in listings of names. -/
def hiddenChars : CharTable :=
  .ofRuns
    "dJYC1qId482647111K1g87eM1b22bE23bA11121219R46HAB11bALG1cT8162214W211UTcHB1Eb7973O4191317F1P511B
    5WGb6bLbJ111484137A2T1218222M1711343112622211D2134O5116422M1712121243O4117A2311C119131M17121534
    811231F24C718218222M17121531216222F2134IB116331432111232333C5112331331LL6318131N1G3134J312224A7
    A1B131N1A15322112N3124A13EB131b52112531312431A4Q221I3O19112792677A23CbC12B88Db1211151O111A12912
    5119A24WO2R11111E1b0I15125bD8161Db1b94161222P243G4D12261F1b411512dZ2gG142711142b5142X142711142F
    1bL142bV5T3Q6cE262rS1S3cH7IDJ329IED13FbG217812B93A6A6B5A6cH752Y115bYAV44234216713b625Bb84Q6B3bL
    223bK11911286DA6A6EcEbCA4381T9C2W426bK112311DbC825F3bQ5b72BB1D1741613215fCbShQ262b226281111111V
    2bH1F1E261J2319HO8bBH22R1D3YbQdW4sIMBLbyC2kH325b911512bK72FN9717171717171717XcMYQ1cHCfYQG1b56G1
    cE4cT5b71bF1b61cE9bC1bfhP3bJ9jOKbB41AW2c8268g5KH13141P254A6bK8bWACOD1b28PB1CU6bC1242221D1B471P1
    b56222B318112A2W1bF1132252111OH28B6262697171bO4d912143A6lyCCN4bD4ceWgvSk62cYb27C5511O151112121s
    2WGGAMZ1J14451dR4eF1U362626233717D22C1Q1J121F2EYdF534b93cG1D31bBb9dNT3bDGR4b09U5b2AU1b14Eb6eE2A
    6b04b04b48bGBC1F17121B1F17123bGCiN9MA8O61b619bX6211b812312N1c089bCJ125X3R5Rb2bK4K2bBF4131TA9797
    bSWb16C9bI3T2R5Q74C7c8c1bJbFDbF7b6CA6b28O82fSV1b63122G689b3b48MB9MI44b2SKN911bIF74U1221CbD42221
    4EP7A9b0519I8Z13BbG9118421G1KBI1S324612bR711141F1B6bB13DA8218222M171215311114222231C7SA11211b21
    112F112311312b3bK82311L1113UbC1261121121248AeMbB1264212Rb0bF821124BA6DJb71112826A6KSR3112419Nf5
    bB9121cScBC82128121O151264139AbY82b68414R1Ab4624891623bAD129Dc17AcF13111cGYEA691b2E116AT3WP1712
    1c37121b2L19A66121b14211117A6b84AgUJ249F1b0823NcE1FbEDzNcUd315BfGcv8cRDbdSH6PegZ5q7hi1UC33Abw6p
    T7V1A4c91A6U71AbC7FAA171L5Jm0bMfIcJ5P2Pb8c35bKBDbS4E59hx2b5WcPd7jhP417121i3F1T321E48l0cm4cZ5D39
    7A2121efCh13m46NFHcNd8bOgUAb32bO53M27U4bPLbU31dEKCKCcF9PdRcD1bZ122122241C11171bT1428171S1415113
    71jG2i42pMbJ4bE81E17bfOV66h9bQe2b9A72A42iWUIb84A51mWS4AfYU2B41fCV1312172592g8714121F1fH29bCbW71
    4A42vTbWc4bPfE41R1211211A141111614111111312112111111111121124171414111A1H53151HbG2hIb84cSCF2F1F
    1b1AeUbKTDb84972E6eAbbD3H3D3g26C41FC4bK8A6b48U2C42E9b3jK8E2D3B3bL114G2C4A7e31cVbcLbtqOWerQ2geE2
    hzLFrAcqIp2bpUfh75jbUbldx2"

end Text
end PatchScript
